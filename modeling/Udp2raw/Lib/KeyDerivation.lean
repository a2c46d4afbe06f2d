import Udp2raw.Lib.Md5
import Udp2raw.Lib.Sha256
import Udp2raw.Data.KeyDerivation

/-!
# The keyed hashes and the key derivation

The HMAC functions of the hash libraries, `PKCS5_PBKDF2_HMAC_SHA256` and
`hkdf_sha256_expand`. A context keeps the two padded keys beside its hash; the derivations
start it anew for every keyed hash. The local contexts of a call are not initialised, so
what their buffers hold is a parameter.
-/
namespace Udp2raw.Hashing

open BlockHash KeyDerivation

/-- A hash context with the padded keys. -/
structure HmacContext (State : Type) where
  /-- The hash context. -/
  hash : HashContext State
  /-- `ipad`. -/
  ipad : List UInt8
  /-- `opad`. -/
  opad : List UInt8

variable (kind : HashKind)

/-- The function from a message to its digest, on an uninitialised local context. -/
def oneShot (stack : HashContext kind.State) (input : List UInt8) : List UInt8 :=
  (finish kind (update kind (starts kind stack) input)).1

/-- The loop that adds the key's bytes to a padding. -/
def addKey : (pad key : List UInt8) → List UInt8
  | byte :: pad, first :: key => (byte ^^^ first) :: addKey pad key
  | pad, [] => pad
  | [], _ => []

/-- The start function of a keyed hash. -/
def hmacStarts (stack : HashContext kind.State) (ctx : HmacContext kind.State)
    (key : List UInt8) : HmacContext kind.State :=
  let key := if 64 < key.length then oneShot kind stack key else key
  let ipad := addKey (List.replicate 64 0x36) key
  let opad := addKey (List.replicate 64 0x5C) key
  ⟨update kind (starts kind ctx.hash) ipad, ipad, opad⟩

/-- The update function of a keyed hash. -/
def hmacUpdate (ctx : HmacContext kind.State) (input : List UInt8) : HmacContext kind.State :=
  { ctx with hash := update kind ctx.hash input }

/-- The finish function of a keyed hash. -/
def hmacFinish (ctx : HmacContext kind.State) : List UInt8 × HmacContext kind.State :=
  let (tmpbuf, hash) := finish kind ctx.hash
  let hash := starts kind hash
  let hash := update kind hash ctx.opad
  let hash := update kind hash tmpbuf
  let (output, hash) := finish kind hash
  (output, { ctx with hash })

/-- The keyed hash of an input in one call. -/
def oneShotHmac (stack : HmacContext kind.State) (key input : List UInt8) : List UInt8 :=
  (hmacFinish kind (hmacUpdate kind (hmacStarts kind stack.hash stack key) input)).1

/-- The variables of the loops of a key derivation. -/
structure DeriveState where
  /-- `ctx`. -/
  ctx : HmacContext kind.State
  /-- `md1`. -/
  md1 : List UInt8
  /-- `work`. -/
  work : List UInt8

/-- The inner loop of the password derivation, by the number of its passes. -/
def iterate (stack : HashContext kind.State) (password : List UInt8) :
    Nat → DeriveState kind → DeriveState kind
  | 0, s => s
  | passes + 1, s =>
    let ctx := hmacStarts kind stack s.ctx password
    let ctx := hmacUpdate kind ctx s.md1
    let (md1, ctx) := hmacFinish kind ctx
    iterate stack password passes ⟨ctx, md1, xorBytes s.work md1⟩

/-- A pass of the outer loop up to the copy: the first keyed hash and the iterations. -/
def deriveBlock (stack : HashContext kind.State) (password salt : List UInt8)
    (iterationCount counter : Nat) (ctx : HmacContext kind.State) : DeriveState kind :=
  let ctx := hmacStarts kind stack ctx password
  let ctx := hmacUpdate kind ctx salt
  let ctx := hmacUpdate kind ctx (counterBytes counter)
  let (md1, ctx) := hmacFinish kind ctx
  iterate kind stack password (iterationCount - 1) ⟨ctx, md1, md1⟩

/-- The outer loop: what it writes to the output from the generated length on. -/
def deriveLoop (stack : HashContext kind.State) (password salt : List UInt8)
    (iterationCount keyLength generated counter : Nat) (ctx : HmacContext kind.State) :
    List UInt8 :=
  if generated < keyLength then
    let s := deriveBlock kind stack password salt iterationCount counter ctx
    let bytesToWrite := min (keyLength - generated) kind.digestLength
    s.work.take bytesToWrite ++ deriveLoop stack password salt iterationCount keyLength
      (generated + bytesToWrite) (counter + 1) s.ctx
  else []
termination_by keyLength - generated
decreasing_by
  have positive := kind.digest_fits.1
  omega

/-- The password derivation of a hash library. -/
def derive (stack : HmacContext kind.State) (password salt : List UInt8)
    (iterationCount keyLength : Nat) : List UInt8 :=
  deriveLoop kind stack.hash password salt iterationCount keyLength 0 1
    { stack with hash := starts kind stack.hash }

/-- The loop of the expansion, by the number of its passes from `i` on up to `n`. -/
def expandLoop (stack : HashContext kind.State) (prk info : List UInt8) (n okmLen : Nat) :
    (passes i place : Nat) → (t : List UInt8) → HmacContext kind.State → List UInt8
  | 0, _, _, _, _ => []
  | passes + 1, i, place, t, ctx =>
    let ctx := hmacStarts kind stack ctx prk
    let ctx := hmacUpdate kind ctx t
    let ctx := hmacUpdate kind ctx info
    let ctx := hmacUpdate kind ctx [UInt8.ofNat i]
    let (t, ctx) := hmacFinish kind ctx
    let numToCopy := if i ≠ n then kind.digestLength else okmLen - place
    t.take numToCopy ++
      expandLoop stack prk info n okmLen passes (i + 1) (place + kind.digestLength) t ctx

/-- The expansion of a secret; `none` is `MBEDTLS_ERR_HKDF_BAD_INPUT_DATA`. -/
def expand (stack : HmacContext kind.State) (prk info : List UInt8) (okmLen : Nat) :
    Option (List UInt8) :=
  if prk.length < kind.digestLength then none
  else
    let n := okmLen / kind.digestLength
    let n := if okmLen % kind.digestLength ≠ 0 then n + 1 else n
    if 255 < n then none else some (expandLoop kind stack.hash prk info n okmLen n 1 0 [] stack)

/-! ### Keyed hashes -/

variable {kind}

/-- The digest function of a hash library. -/
def HashKind.digestOf (kind : HashKind) (message : List UInt8) : List UInt8 :=
  digest kind.process kind.field kind.start kind.output message

/-- A digest's length. -/
theorem digestOf_length (message : List UInt8) :
    (kind.digestOf message).length = kind.digestLength :=
  kind.output_length _

/-- A finished context still has a whole buffer. -/
theorem finish_size {ctx : HashContext kind.State} {message : List UInt8}
    (represents : Represents kind ctx message) : (finish kind ctx).2.buffer.length = 64 := by
  have padded := represents.update (paddingBytes.take
      (if ctx.total0 % 64 < 56 then 56 - ctx.total0 % 64 else 120 - ctx.total0 % 64)) (by
    rw [List.length_take]
    have short : paddingBytes.length = 64 := rfl
    omega)
  have ended := padded.update (lengthField kind ctx) (by
    have eight : (lengthField kind ctx).length = 8 := kind.msglen_length _ _
    omega)
  exact ended.size

/-- The digest in one call. -/
theorem oneShot_digest (stack : HashContext kind.State) (size : stack.buffer.length = 64)
    (input : List UInt8) (small : input.length < 2 ^ 32) :
    oneShot kind stack input = kind.digestOf input := by
  have fed := (starts_represents stack size).update input small
  rw [List.nil_append] at fed
  exact finish_digest fed

/-- The loop adds the key filled up with zeros. -/
theorem addKey_eq (byte : UInt8) (room : Nat) (key : List UInt8) (fits : key.length ≤ room) :
    addKey (List.replicate room byte) key =
      (key ++ List.replicate (room - key.length) 0).map (byte ^^^ ·) := by
  induction key generalizing room with
  | nil =>
    cases room <;> simp [addKey, List.replicate_succ]
  | cons first key ih =>
    cases room with
    | zero => simp at fits
    | succ room =>
      have shorter : key.length ≤ room := by simpa using fits
      have rest : room + 1 - (key.length + 1) = room - key.length := by omega
      rw [List.replicate_succ, addKey, ih room shorter, List.length_cons, rest, List.cons_append,
        List.map_cons]

/-- A context that a key has been given to, and pieces of a message since. -/
structure Keyed (ctx : HmacContext kind.State) (key message : List UInt8) : Prop where
  /-- The inner hash has taken the padded key and the message. -/
  inner : Represents kind ctx.hash ((keyBlock kind.digestOf key).map (0x36 ^^^ ·) ++ message)
  /-- The outer padded key is kept. -/
  opad : ctx.opad = (keyBlock kind.digestOf key).map (0x5C ^^^ ·)

/-- A padded key is a block. -/
theorem keyBlock_length (key : List UInt8) : (keyBlock kind.digestOf key).length = 64 := by
  have fits := kind.digest_fits.2
  rw [keyBlock]
  split
  · rw [List.length_append, List.length_replicate, digestOf_length]
    omega
  · rw [List.length_append, List.length_replicate]
    omega

/-- Starting gives the key to the context. -/
theorem hmacStarts_keyed (stack : HashContext kind.State) (ctx : HmacContext kind.State)
    (key : List UInt8) (stackSize : stack.buffer.length = 64)
    (size : ctx.hash.buffer.length = 64) (small : key.length < 2 ^ 32) :
    Keyed (hmacStarts kind stack ctx key) key [] := by
  have fits := kind.digest_fits.2
  have padded (byte : UInt8) :
      addKey (List.replicate 64 byte) (if 64 < key.length then oneShot kind stack key else key) =
        (keyBlock kind.digestOf key).map (byte ^^^ ·) := by
    rw [oneShot_digest stack stackSize key small]
    rw [addKey_eq byte 64 _ (by
      split
      · rw [digestOf_length]
        exact fits
      · omega)]
    rfl
  constructor
  · have fed := (starts_represents ctx.hash size).update
      ((keyBlock kind.digestOf key).map (0x36 ^^^ ·)) (by
        rw [List.length_map, keyBlock_length]
        decide)
    rw [List.nil_append] at fed
    simp only [hmacStarts, padded, List.append_nil]
    exact fed
  · simp only [hmacStarts, padded]

/-- An update adds to the message. -/
theorem Keyed.update {ctx : HmacContext kind.State} {key message : List UInt8}
    (keyed : Keyed ctx key message) (input : List UInt8) (small : input.length < 2 ^ 32) :
    Keyed (hmacUpdate kind ctx input) key (message ++ input) := by
  constructor
  · have fed := keyed.inner.update input small
    rw [List.append_assoc] at fed
    exact fed
  · exact keyed.opad

/-- Finishing gives the keyed hash of the message, and the context can be started again. -/
theorem Keyed.finish {ctx : HmacContext kind.State} {key message : List UInt8}
    (keyed : Keyed ctx key message) :
    (hmacFinish kind ctx).1 = hmac kind.digestOf key message ∧
      (hmacFinish kind ctx).2.hash.buffer.length = 64 := by
  have fits := kind.digest_fits.2
  have inner := finish_digest keyed.inner
  have size := finish_size keyed.inner
  have started := starts_represents (Hashing.finish kind ctx.hash).2 size
  have padded := started.update ctx.opad (by
    rw [keyed.opad, List.length_map, keyBlock_length]
    decide)
  have ended := padded.update (Hashing.finish kind ctx.hash).1 (by
    rw [inner]
    have length :
        (kind.digestOf ((keyBlock kind.digestOf key).map (0x36 ^^^ ·) ++ message)).length =
          kind.digestLength := digestOf_length _
    rw [HashKind.digestOf] at length
    omega)
  rw [List.nil_append] at ended
  constructor
  · have outer := finish_digest ended
    simp only [hmacFinish]
    rw [outer, inner, keyed.opad]
    rfl
  · exact finish_size ended

/-- The keyed hash of a message in pieces. -/
theorem hmac_pieces (stack : HashContext kind.State) (ctx : HmacContext kind.State)
    (key : List UInt8) (stackSize : stack.buffer.length = 64)
    (size : ctx.hash.buffer.length = 64) (small : key.length < 2 ^ 32)
    (pieces : List (List UInt8)) (smallPieces : ∀ piece ∈ pieces, piece.length < 2 ^ 32) :
    Keyed (pieces.foldl (hmacUpdate kind) (hmacStarts kind stack ctx key)) key pieces.flatten := by
  have fed (pieces : List (List UInt8)) : ∀ (ctx : HmacContext kind.State) (message : List UInt8),
      Keyed ctx key message → (∀ piece ∈ pieces, piece.length < 2 ^ 32) →
      Keyed (pieces.foldl (hmacUpdate kind) ctx) key (message ++ pieces.flatten) := by
    induction pieces with
    | nil =>
      intro ctx message keyed small
      simpa using keyed
    | cons piece pieces ih =>
      intro ctx message keyed small
      have first := keyed.update piece (small piece List.mem_cons_self)
      have later := ih _ _ first fun other member => small other (List.mem_cons_of_mem _ member)
      rw [List.append_assoc] at later
      exact later
  have started := hmacStarts_keyed stack ctx key stackSize size small
  have all := fed pieces _ _ started smallPieces
  rw [List.nil_append] at all
  exact all

/-! ### Derived keys -/

/-- The keyed hash of a password. -/
def HashKind.prf (kind : HashKind) (key : List UInt8) : List UInt8 → List UInt8 :=
  hmac kind.digestOf key

/-- A keyed hash has a digest's length. -/
theorem prf_length (key message : List UInt8) : (kind.prf key message).length = kind.digestLength :=
  digestOf_length _

/-- The inner loop sums the iterations of the keyed hash. -/
theorem iterate_summed (stack : HashContext kind.State) (password first : List UInt8)
    (stackSize : stack.buffer.length = 64) (small : password.length < 2 ^ 32)
    (width : first.length = kind.digestLength) (passes done : Nat) (s : DeriveState kind)
    (size : s.ctx.hash.buffer.length = 64)
    (last : s.md1 = iterated (kind.prf password) first done)
    (sum : s.work = summed (kind.prf password) first done) :
    (iterate kind stack password passes s).work =
        summed (kind.prf password) first (done + passes) ∧
      (iterate kind stack password passes s).ctx.hash.buffer.length = 64 := by
  have fits := kind.digest_fits.2
  induction passes generalizing done s with
  | zero => exact ⟨sum, size⟩
  | succ passes ih =>
    have short : s.md1.length < 2 ^ 32 := by
      rw [last]
      cases done with
      | zero =>
        rw [iterated, width]
        omega
      | succ done =>
        rw [iterated, prf_length]
        omega
    have keyed := (hmacStarts_keyed stack s.ctx password stackSize size small).update s.md1 short
    rw [List.nil_append] at keyed
    have hashed := keyed.finish
    have next : (hmacFinish kind (hmacUpdate kind (hmacStarts kind stack s.ctx password) s.md1)).1 =
        iterated (kind.prf password) first (done + 1) := by
      rw [hashed.1, last]
      rfl
    have later := ih (done + 1) ⟨_, _, _⟩ hashed.2 next (by
      rw [summed, ← next, ← sum])
    have count : done + (passes + 1) = done + 1 + passes := by omega
    rw [count]
    exact later

/-- A pass of the outer loop makes a block of the derived key. -/
theorem deriveBlock_block (stack : HashContext kind.State) (password salt : List UInt8)
    (iterationCount counter : Nat) (ctx : HmacContext kind.State)
    (stackSize : stack.buffer.length = 64) (size : ctx.hash.buffer.length = 64)
    (small : password.length < 2 ^ 32) (smallSalt : salt.length < 2 ^ 32) :
    (deriveBlock kind stack password salt iterationCount counter ctx).work =
        pbkdf2Block (kind.prf password) salt iterationCount counter ∧
      (deriveBlock kind stack password salt iterationCount counter ctx).ctx.hash.buffer.length =
        64 := by
  have keyed := ((hmacStarts_keyed stack ctx password stackSize size small).update salt
    smallSalt).update (counterBytes counter) (by
      have four : (counterBytes counter).length = 4 := rfl
      omega)
  rw [List.nil_append] at keyed
  have hashed := keyed.finish
  have first : (hmacFinish kind (hmacUpdate kind (hmacUpdate kind
      (hmacStarts kind stack ctx password) salt) (counterBytes counter))).1 =
        kind.prf password (salt ++ counterBytes counter) := hashed.1
  have summedUp := iterate_summed stack password (kind.prf password (salt ++ counterBytes counter))
    stackSize small (prf_length _ _) (iterationCount - 1) 0 ⟨_, _, _⟩ hashed.2 first first
  rw [Nat.zero_add] at summedUp
  exact summedUp

/-- The outer loop from a block on writes the rest of the derived key. -/
theorem deriveLoop_blocks (stack : HashContext kind.State) (password salt : List UInt8)
    (iterationCount keyLength : Nat) (stackSize : stack.buffer.length = 64)
    (small : password.length < 2 ^ 32) (smallSalt : salt.length < 2 ^ 32) (count : Nat) :
    ∀ (done : Nat) (ctx : HmacContext kind.State), ctx.hash.buffer.length = 64 →
      keyLength ≤ kind.digestLength * (done + count) →
      deriveLoop kind stack password salt iterationCount keyLength (kind.digestLength * done)
          (done + 1) ctx =
        (blocks (pbkdf2Block (kind.prf password) salt iterationCount) (done + 1) count).take
          (keyLength - kind.digestLength * done) := by
  induction count with
  | zero =>
    intro done ctx size enough
    rw [Nat.add_zero] at enough
    unfold deriveLoop
    rw [if_neg (by omega)]
    simp [blocks]
  | succ count ih =>
    intro done ctx size enough
    have made := deriveBlock_block stack password salt iterationCount (done + 1) ctx stackSize size
      small smallSalt
    have width : (pbkdf2Block (kind.prf password) salt iterationCount (done + 1)).length =
        kind.digestLength :=
      summed_length _ _ (prf_length password) _ (prf_length password _) _
    unfold deriveLoop
    by_cases more : kind.digestLength * done < keyLength
    · rw [if_pos more, blocks_succ, List.take_append, width]
      simp only [made.1]
      by_cases last : keyLength - kind.digestLength * done ≤ kind.digestLength
      · have taken : min (keyLength - kind.digestLength * done) kind.digestLength =
            keyLength - kind.digestLength * done := Nat.min_eq_left last
        have ended : ¬ kind.digestLength * done + (keyLength - kind.digestLength * done) <
            keyLength := by omega
        have nothing : keyLength - kind.digestLength * done - kind.digestLength = 0 := by omega
        simp only [taken, nothing, List.take_zero]
        unfold deriveLoop
        rw [if_neg ended]
      · have taken : min (keyLength - kind.digestLength * done) kind.digestLength =
            kind.digestLength := Nat.min_eq_right (by omega)
        have next : kind.digestLength * done + kind.digestLength =
            kind.digestLength * (done + 1) := (Nat.mul_succ _ _).symm
        have later := ih (done + 1)
          (deriveBlock kind stack password salt iterationCount (done + 1) ctx).ctx made.2 (by
            have same : done + 1 + count = done + (count + 1) := by omega
            rw [same]
            exact enough)
        have rest : keyLength - kind.digestLength * done - kind.digestLength =
            keyLength - kind.digestLength * (done + 1) := by
          rw [← next]
          omega
        have whole : (pbkdf2Block (kind.prf password) salt iterationCount (done + 1)).take
            (keyLength - kind.digestLength * done) =
            (pbkdf2Block (kind.prf password) salt iterationCount (done + 1)).take
              kind.digestLength := by
          rw [List.take_of_length_le (by omega), List.take_of_length_le (by omega)]
        simp only [taken, next, later, rest, whole]
    · have none : keyLength - kind.digestLength * done = 0 := by omega
      rw [if_neg more, none, List.take_zero]

/-- The password derivation is the standard's, whatever the uninitialised contexts hold. -/
theorem derive_pbkdf2 (stack : HmacContext kind.State) (size : stack.hash.buffer.length = 64)
    (password salt : List UInt8) (iterationCount keyLength : Nat)
    (small : password.length < 2 ^ 32) (smallSalt : salt.length < 2 ^ 32) :
    derive kind stack password salt iterationCount keyLength =
      pbkdf2 (kind.prf password) kind.digestLength salt iterationCount keyLength := by
  have looped := deriveLoop_blocks stack.hash password salt iterationCount keyLength size small
    smallSalt (blocksFor kind.digestLength keyLength) 0
    { stack with hash := starts kind stack.hash } size (by
      rw [Nat.zero_add]
      exact blocksFor_enough _ _ kind.digest_fits.1)
  rw [Nat.mul_zero, Nat.zero_add, Nat.sub_zero] at looped
  exact looped

/-- The passes of the expansion from a block on write the rest of the output. -/
theorem expandLoop_blocks (stack : HashContext kind.State) (prk info : List UInt8)
    (n okmLen : Nat) (stackSize : stack.buffer.length = 64) (small : prk.length < 2 ^ 32)
    (smallInfo : info.length < 2 ^ 32) (below : kind.digestLength * n < okmLen + kind.digestLength)
    (passes : Nat) : ∀ (done : Nat) (ctx : HmacContext kind.State) (t : List UInt8),
      ctx.hash.buffer.length = 64 → done + passes = n →
      t = expandBlock (kind.prf prk) info done →
      expandLoop kind stack prk info n okmLen passes (done + 1) (kind.digestLength * done) t ctx =
        (blocks (expandBlock (kind.prf prk) info) (done + 1) passes).take
          (okmLen - kind.digestLength * done) := by
  have fits := kind.digest_fits.2
  induction passes with
  | zero =>
    intro done ctx t size count last
    simp [expandLoop, blocks]
  | succ passes ih =>
    intro done ctx t size count last
    have short : t.length < 2 ^ 32 := by
      rw [last]
      cases done with
      | zero =>
        rw [expandBlock, List.length_nil]
        decide
      | succ done =>
        rw [expandBlock, prf_length]
        omega
    have keyed := (((hmacStarts_keyed stack ctx prk stackSize size small).update t short).update
      info smallInfo).update [UInt8.ofNat (done + 1)] (by
        rw [List.length_singleton]
        decide)
    rw [List.nil_append] at keyed
    have hashed := keyed.finish
    have next : (hmacFinish kind (hmacUpdate kind (hmacUpdate kind (hmacUpdate kind
        (hmacStarts kind stack ctx prk) t) info) [UInt8.ofNat (done + 1)])).1 =
          expandBlock (kind.prf prk) info (done + 1) := by
      rw [hashed.1, last]
      rfl
    have width : (expandBlock (kind.prf prk) info (done + 1)).length = kind.digestLength :=
      prf_length _ _
    have place : kind.digestLength * done + kind.digestLength = kind.digestLength * (done + 1) :=
      (Nat.mul_succ _ _).symm
    have later := ih (done + 1) _ _ hashed.2 (by omega) next
    have rest : okmLen - kind.digestLength * done - kind.digestLength =
        okmLen - kind.digestLength * (done + 1) := by
      rw [← place]
      omega
    have copied : (expandBlock (kind.prf prk) info (done + 1)).take
        (if done + 1 ≠ n then kind.digestLength else okmLen - kind.digestLength * done) =
        (expandBlock (kind.prf prk) info (done + 1)).take
          (okmLen - kind.digestLength * done) := by
      by_cases inner : done + 1 ≠ n
      · have before : kind.digestLength * (done + 2) ≤ kind.digestLength * n :=
          Nat.mul_le_mul_left _ (by omega)
        have two : kind.digestLength * (done + 2) =
            kind.digestLength * done + kind.digestLength + kind.digestLength := by
          rw [Nat.mul_succ, Nat.mul_succ]
        rw [if_pos inner, List.take_of_length_le (by omega), List.take_of_length_le (by omega)]
      · rw [if_neg inner]
    rw [blocks_succ, List.take_append, width, rest, ← later, ← copied, expandLoop]
    simp only [next, place]

/-- The expansion is the standard's for a long enough secret and up to 255 blocks, and an error
otherwise, whatever the uninitialised contexts hold. -/
theorem expand_hkdf (stack : HmacContext kind.State) (size : stack.hash.buffer.length = 64)
    (prk info : List UInt8) (okmLen : Nat) (small : prk.length < 2 ^ 32)
    (smallInfo : info.length < 2 ^ 32) : expand kind stack prk info okmLen =
      if prk.length < kind.digestLength ∨ 255 < blocksFor kind.digestLength okmLen then none
      else some (hkdfExpand (kind.prf prk) kind.digestLength info okmLen) := by
  have positive := kind.digest_fits.1
  have split := Nat.div_add_mod okmLen kind.digestLength
  have inside := Nat.mod_lt okmLen positive
  have count : (if okmLen % kind.digestLength ≠ 0 then okmLen / kind.digestLength + 1
      else okmLen / kind.digestLength) = blocksFor kind.digestLength okmLen := by
    rw [blocksFor]
    by_cases whole : okmLen % kind.digestLength = 0
    · rw [if_neg (by omega)]
      apply Eq.symm
      apply Nat.div_eq_of_lt_le
      · rw [Nat.mul_comm]
        omega
      · rw [Nat.succ_mul, Nat.mul_comm]
        omega
    · rw [if_pos whole]
      apply Eq.symm
      apply Nat.div_eq_of_lt_le
      · rw [Nat.succ_mul, Nat.mul_comm]
        omega
      · rw [Nat.succ_mul, Nat.succ_mul, Nat.mul_comm]
        omega
  have below : kind.digestLength * blocksFor kind.digestLength okmLen <
      okmLen + kind.digestLength := by
    have le := Nat.div_mul_le_self (okmLen + kind.digestLength - 1) kind.digestLength
    rw [blocksFor, Nat.mul_comm]
    omega
  unfold expand
  simp only [count]
  by_cases shortKey : prk.length < kind.digestLength
  · rw [if_pos shortKey, if_pos (Or.inl shortKey)]
  · by_cases long : 255 < blocksFor kind.digestLength okmLen
    · rw [if_neg shortKey, if_pos long, if_pos (Or.inr long)]
    · have looped := expandLoop_blocks stack.hash prk info (blocksFor kind.digestLength okmLen)
        okmLen size small smallInfo below (blocksFor kind.digestLength okmLen) 0 stack [] size
        (Nat.zero_add _) rfl
      rw [Nat.mul_zero, Nat.zero_add, Nat.sub_zero] at looped
      have neither : ¬ (prk.length < kind.digestLength ∨
          255 < blocksFor kind.digestLength okmLen) := by omega
      rw [if_neg shortKey, if_neg long, if_neg neither, looped, hkdfExpand]

/-! ### The library's functions -/

open Md5 Sha1 Sha256 SecureHash

/-- `sha1_hmac`. -/
def sha1Hmac (stack : HmacContext sha1Kind.State) (key input : List UInt8) : List UInt8 :=
  oneShotHmac sha1Kind stack key input

/-- `sha2_hmac`. -/
def sha2Hmac (is224 : Bool) (stack : HmacContext (sha2Kind is224).State)
    (key input : List UInt8) : List UInt8 :=
  oneShotHmac (sha2Kind is224) stack key input

/-- `PKCS5_PBKDF2_HMAC_SHA1`. -/
def pkcs5Pbkdf2HmacSha1 (stack : HmacContext sha1Kind.State) (password salt : List UInt8)
    (iterationCount keyLength : Nat) : List UInt8 :=
  derive sha1Kind stack password salt iterationCount keyLength

/-- `PKCS5_PBKDF2_HMAC_SHA256`. -/
def pkcs5Pbkdf2HmacSha256 (stack : HmacContext (sha2Kind false).State)
    (password salt : List UInt8) (iterationCount keyLength : Nat) : List UInt8 :=
  derive (sha2Kind false) stack password salt iterationCount keyLength

/-- `hkdf_sha256_extract`: a null salt stands for zeros. -/
def hkdfSha256Extract (stack : HmacContext (sha2Kind false).State) (salt : Option (List UInt8))
    (ikm : List UInt8) : List UInt8 :=
  sha2Hmac false stack (salt.getD (List.replicate 32 0)) ikm

/-- `hkdf_sha256_expand`. -/
def hkdfSha256Expand (stack : HmacContext (sha2Kind false).State) (prk info : List UInt8)
    (okmLen : Nat) : Option (List UInt8) :=
  expand (sha2Kind false) stack prk info okmLen

/-- `hkdf_sha256`. -/
def hkdfSha256 (stack : HmacContext (sha2Kind false).State) (salt : Option (List UInt8))
    (ikm info : List UInt8) (okmLen : Nat) : Option (List UInt8) :=
  hkdfSha256Expand stack (hkdfSha256Extract stack salt ikm) info okmLen

/-- A context with zeros in its memory. -/
def zeroStack (kind : HashKind) : HmacContext kind.State :=
  ⟨⟨0, 0, kind.start, List.replicate 64 0⟩, [], []⟩

/-- The three hash libraries. -/
inductive Library where
  /-- `md5.cpp`. -/
  | md5
  /-- `pbkdf2-sha1.cpp`. -/
  | sha1
  /-- `pbkdf2-sha256.cpp`, by the value of `is224`. -/
  | sha2 (is224 : Bool)

/-- Its hash functions. -/
def Library.functions : Library → HashKind
  | .md5 => md5Kind
  | .sha1 => sha1Kind
  | .sha2 is224 => sha2Kind is224

/-- The hash function that it is to compute. -/
def Library.standard : Library → List UInt8 → List UInt8
  | .md5 => MessageDigest.md5
  | .sha1 => SecureHash.sha1
  | .sha2 is224 => sha256 is224

/-- Each library computes its hash function. -/
theorem Library.digestOf_standard (library : Library) :
    library.functions.digestOf = library.standard := by
  funext message
  cases library with
  | md5 => exact md5Kind_digest message
  | sha1 => exact sha1Kind_digest message
  | sha2 is224 => exact sha2Kind_digest is224 message

/-- The finished keyed hash of a message in pieces is the standard's keyed hash of the whole
message, whatever the contexts held before. -/
theorem hmacFinish_standard (library : Library) (stack : HashContext library.functions.State)
    (ctx : HmacContext library.functions.State) (stackSize : stack.buffer.length = 64)
    (size : ctx.hash.buffer.length = 64) (key : List UInt8) (small : key.length < 2 ^ 31)
    (pieces : List (List UInt8)) (smallPieces : ∀ piece ∈ pieces, piece.length < 2 ^ 31) :
    (hmacFinish library.functions
      (pieces.foldl (hmacUpdate library.functions)
        (hmacStarts library.functions stack ctx key))).1 =
        hmac library.standard key pieces.flatten := by
  have keyed := hmac_pieces stack ctx key stackSize size (by omega) pieces
    fun piece member => Nat.lt_trans (smallPieces piece member) (by decide)
  rw [← library.digestOf_standard]
  exact keyed.finish.1

/-- The same for SHA-1 and two pieces. -/
theorem hmacFinish_standard_two :
    (hmacFinish sha1Kind ([[97], [98, 99]].foldl (hmacUpdate sha1Kind)
      (hmacStarts sha1Kind (zeroStack sha1Kind).hash (zeroStack sha1Kind) [7]))).1 =
        hmac sha1 [7] [97, 98, 99] :=
  hmacFinish_standard .sha1 (zeroStack sha1Kind).hash (zeroStack sha1Kind) rfl rfl [7] (by decide)
    [[97], [98, 99]] (by decide)

/-- The keyed hash in one call. -/
theorem oneShotHmac_hmac (stack : HmacContext kind.State)
    (size : stack.hash.buffer.length = 64) (key input : List UInt8)
    (small : key.length < 2 ^ 32) (smallInput : input.length < 2 ^ 32) :
    oneShotHmac kind stack key input = hmac kind.digestOf key input := by
  have keyed := (hmacStarts_keyed stack.hash stack key size size small).update input smallInput
  rw [List.nil_append] at keyed
  exact keyed.finish.1

/-- Both password derivations are the standard's over the keyed hash of their library, whatever
the contexts held before. -/
theorem pkcs5Pbkdf2_standard (stack1 : HmacContext sha1Kind.State)
    (stack2 : HmacContext (sha2Kind false).State) (size1 : stack1.hash.buffer.length = 64)
    (size2 : stack2.hash.buffer.length = 64) (password salt : List UInt8)
    (iterationCount keyLength : Nat) (small : password.length < 2 ^ 31)
    (smallSalt : salt.length < 2 ^ 31) :
    pkcs5Pbkdf2HmacSha1 stack1 password salt iterationCount keyLength =
        pbkdf2 (hmac sha1 password) 20 salt iterationCount keyLength ∧
      pkcs5Pbkdf2HmacSha256 stack2 password salt iterationCount keyLength =
        pbkdf2 (hmac (sha256 false) password) 32 salt iterationCount keyLength := by
  have short : password.length < 2 ^ 32 := Nat.lt_trans small (by decide)
  have shortSalt : salt.length < 2 ^ 32 := Nat.lt_trans smallSalt (by decide)
  have standard1 : sha1Kind.digestOf = sha1 := Library.sha1.digestOf_standard
  have standard2 : (sha2Kind false).digestOf = sha256 false :=
    (Library.sha2 false).digestOf_standard
  constructor
  · rw [← standard1]
    exact derive_pbkdf2 stack1 size1 password salt iterationCount keyLength short shortSalt
  · rw [← standard2]
    exact derive_pbkdf2 stack2 size2 password salt iterationCount keyLength short shortSalt

/-- The same for two blocks and a thousand iterations. -/
theorem pkcs5Pbkdf2_standard_two :
    pkcs5Pbkdf2HmacSha1 (zeroStack sha1Kind) [7] [1, 2] 1000 40 =
        pbkdf2 (hmac sha1 [7]) 20 [1, 2] 1000 40 ∧
      pkcs5Pbkdf2HmacSha256 (zeroStack (sha2Kind false)) [7] [1, 2] 1000 40 =
        pbkdf2 (hmac (sha256 false) [7]) 32 [1, 2] 1000 40 :=
  pkcs5Pbkdf2_standard (zeroStack sha1Kind) (zeroStack (sha2Kind false)) rfl rfl [7] [1, 2] 1000 40
    (by decide) (by decide)

/-- `hkdf_sha256` extracts a secret with the keyed hash and expands it by the standard, and its
only error is a length of more than 255 blocks. -/
theorem hkdfSha256_standard (stack : HmacContext (sha2Kind false).State)
    (size : stack.hash.buffer.length = 64) (salt : Option (List UInt8)) (ikm info : List UInt8)
    (okmLen : Nat) (smallSalt : (salt.getD []).length < 2 ^ 32)
    (small : ikm.length < 2 ^ 32) (smallInfo : info.length < 2 ^ 32) :
    hkdfSha256 stack salt ikm info okmLen =
      if 255 < blocksFor 32 okmLen then none
      else some (hkdfExpand (hmac (sha256 false)
        (hmac (sha256 false) (salt.getD (List.replicate 32 0)) ikm)) 32 info okmLen) := by
  have standard : (sha2Kind false).digestOf = sha256 false :=
    (Library.sha2 false).digestOf_standard
  have smallKey : (salt.getD (List.replicate 32 0)).length < 2 ^ 32 := by
    cases salt with
    | none => decide
    | some given => exact smallSalt
  have extracted : hkdfSha256Extract stack salt ikm =
      hmac (sha256 false) (salt.getD (List.replicate 32 0)) ikm := by
    rw [← standard]
    exact oneShotHmac_hmac stack size _ ikm smallKey small
  have width : (hkdfSha256Extract stack salt ikm).length = 32 := by
    rw [extracted, ← standard]
    exact digestOf_length _
  have expanded := expand_hkdf stack size (hkdfSha256Extract stack salt ikm) info okmLen
    (by omega) smallInfo
  have digest : (sha2Kind false).digestLength = 32 := rfl
  have prf : (sha2Kind false).prf = hmac (sha256 false) := by
    rw [← standard]
    rfl
  have long : ¬ 32 < 32 := Nat.lt_irrefl 32
  rw [hkdfSha256, hkdfSha256Expand, expanded, prf, digest, width, extracted]
  simp only [long, false_or]

/-- The same for a null salt. -/
theorem hkdfSha256_standard_null :
    hkdfSha256 (zeroStack (sha2Kind false)) none [7] [1, 2] 64 =
      if 255 < blocksFor 32 64 then none
      else some (hkdfExpand (hmac (sha256 false)
        (hmac (sha256 false) (List.replicate 32 0) [7])) 32 [1, 2] 64) :=
  hkdfSha256_standard (zeroStack (sha2Kind false)) rfl none [7] [1, 2] 64
    (by decide) (by decide) (by decide)

end Udp2raw.Hashing
