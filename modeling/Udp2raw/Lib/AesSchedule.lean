import Udp2raw.Lib.AesCipher
import Mathlib.Data.List.GetD

/-!
# The AES key schedules

The loops of `aes_setkey_enc` extend the key word by word as the standard's recurrence
says, for each of the three key sizes, and `aes_setkey_dec` reverses and unmixes the round
keys as the inverse cipher needs them. So a block encrypted under a key is the standard's
ciphertext and decrypts to itself.
-/
namespace Udp2raw.Aes

open BlockModes WordBytes RoundCipher Rijndael

attribute [local instance] four_neZero sixteen_neZero

/-- The words of a list as columns. -/
def columnsOf (words : List UInt32) : Nat → Column := fun place => bytesOf (words.getD place 0)

/-- The words of a key as columns. -/
def keyColumns (key : List UInt8) : Nat → Column := fun place row =>
  key.getD (4 * place + row.val) 0

/-- One more word: the word one key length back plus a value that depends on the last. -/
def extend (keyLength : Nat) (words : List UInt32) (next : UInt32 → UInt32) : List UInt32 :=
  words ++ [words.getD (words.length - keyLength) 0 ^^^ next (words.getD (words.length - 1) 0)]

/-- One word more for each of several values. -/
def extendAll (keyLength : Nat) (words : List UInt32) (nexts : List (UInt32 → UInt32)) :
    List UInt32 :=
  nexts.foldl (extend keyLength) words

/-- The values that one pass of `case 10` adds. -/
def nexts10 (rcon : UInt32) : List (UInt32 → UInt32) :=
  [fun last => rcon ^^^ substitutedRotated last, id, id, id]

/-- The values that one pass of `case 12` adds. -/
def nexts12 (rcon : UInt32) : List (UInt32 → UInt32) :=
  [fun last => rcon ^^^ substitutedRotated last, id, id, id, id, id]

/-- The values that one pass of `case 14` adds. -/
def nexts14 (rcon : UInt32) : List (UInt32 → UInt32) :=
  [fun last => rcon ^^^ substitutedRotated last, id, id, id, substituted, id, id, id]

/-- The loop body of the shortest keys extends the schedule by four words. -/
theorem expand10_eq (words : List UInt32) (rcon : UInt32) (long : 4 ≤ words.length) :
    expand10 words rcon = extendAll 4 words (nexts10 rcon) := by
  have place1 : words.length - 3 = words.length - 4 + 1 := by omega
  have inside1 : words.length - 4 + 1 < words.length := by omega
  have place2 : words.length - 2 = words.length - 4 + 2 := by omega
  have inside2 : words.length - 4 + 2 < words.length := by omega
  have place3 : words.length - 1 = words.length - 4 + 3 := by omega
  have inside3 : words.length - 4 + 3 < words.length := by omega
  simp [extendAll, extend, expand10, nexts10, List.getElem?_append, place1, inside1, place2,
    inside2, place3, inside3]

/-- The loop body of the middle keys extends it by six. -/
theorem expand12_eq (words : List UInt32) (rcon : UInt32) (long : 6 ≤ words.length) :
    expand12 words rcon = extendAll 6 words (nexts12 rcon) := by
  have place1 : words.length - 5 = words.length - 6 + 1 := by omega
  have inside1 : words.length - 6 + 1 < words.length := by omega
  have place2 : words.length - 4 = words.length - 6 + 2 := by omega
  have inside2 : words.length - 6 + 2 < words.length := by omega
  have place3 : words.length - 3 = words.length - 6 + 3 := by omega
  have inside3 : words.length - 6 + 3 < words.length := by omega
  have place4 : words.length - 2 = words.length - 6 + 4 := by omega
  have inside4 : words.length - 6 + 4 < words.length := by omega
  have place5 : words.length - 1 = words.length - 6 + 5 := by omega
  have inside5 : words.length - 6 + 5 < words.length := by omega
  simp [extendAll, extend, expand12, nexts12, List.getElem?_append, place1, inside1, place2,
    inside2, place3, inside3, place4, inside4, place5, inside5]

/-- The loop body of the longest keys extends it by eight, one of them substituted in between. -/
theorem expand14_eq (words : List UInt32) (rcon : UInt32) (long : 8 ≤ words.length) :
    expand14 words rcon = extendAll 8 words (nexts14 rcon) := by
  have place1 : words.length - 7 = words.length - 8 + 1 := by omega
  have inside1 : words.length - 8 + 1 < words.length := by omega
  have place2 : words.length - 6 = words.length - 8 + 2 := by omega
  have inside2 : words.length - 8 + 2 < words.length := by omega
  have place3 : words.length - 5 = words.length - 8 + 3 := by omega
  have inside3 : words.length - 8 + 3 < words.length := by omega
  have place4 : words.length - 4 = words.length - 8 + 4 := by omega
  have inside4 : words.length - 8 + 4 < words.length := by omega
  have place5 : words.length - 3 = words.length - 8 + 5 := by omega
  have inside5 : words.length - 8 + 5 < words.length := by omega
  have place6 : words.length - 2 = words.length - 8 + 6 := by omega
  have inside6 : words.length - 8 + 6 < words.length := by omega
  have place7 : words.length - 1 = words.length - 8 + 7 := by omega
  have inside7 : words.length - 8 + 7 < words.length := by omega
  simp [extendAll, extend, expand14, nexts14, List.getElem?_append, place1, inside1, place2,
    inside2, place3, inside3, place4, inside4, place5, inside5, place6, inside6, place7, inside7]

/-- A list of words that expands a key as far as it goes. -/
def Expanded (keyLength : Nat) (key : Nat → Column) (words : List UInt32) : Prop :=
  Expands fsb.at keyLength key words.length (columnsOf words)

/-- A word with the scheduled value continues the expansion. -/
theorem Expanded.extend {keyLength : Nat} {key : Nat → Column} {words : List UInt32}
    (expanded : Expanded keyLength key words) (positive : 0 < keyLength)
    (long : keyLength ≤ words.length) (next : UInt32 → UInt32)
    (value : ∀ last, bytesOf (next last) =
      scheduled fsb.at keyLength words.length (bytesOf last)) :
    Expanded keyLength key (extend keyLength words next) := by
  have old (place : Nat) (inside : place < words.length) :
      columnsOf (Aes.extend keyLength words next) place = columnsOf words place := by
    simp [columnsOf, Aes.extend, List.getElem?_append_left inside]
  have new : columnsOf (Aes.extend keyLength words next) words.length =
      (columnsOf words (words.length - keyLength)).add
        (scheduled fsb.at keyLength words.length (columnsOf words (words.length - 1))) := by
    have last : (Aes.extend keyLength words next).getD words.length 0 =
        words.getD (words.length - keyLength) 0 ^^^ next (words.getD (words.length - 1) 0) := by
      simp [Aes.extend]
    rw [columnsOf, last, bytesOf_add, value]
    rfl
  have length : (Aes.extend keyLength words next).length = words.length + 1 := by
    simp [Aes.extend]
  constructor
  · intro place start
    rw [old place (by omega)]
    exact expanded.key place start
  · intro place behind inside
    rw [length] at inside
    have back := old (place - keyLength) (by omega)
    have before := old (place - 1) (by omega)
    rw [back, before]
    by_cases last : place = words.length
    · rw [last]
      exact new
    · rw [old place (by omega)]
      exact expanded.next place behind (by omega)

/-- Several words with their scheduled values continue the expansion. -/
theorem Expanded.extendAll {keyLength : Nat} {key : Nat → Column}
    (positive : 0 < keyLength) (nexts : List (UInt32 → UInt32)) (words : List UInt32)
    (expanded : Expanded keyLength key words) (long : keyLength ≤ words.length)
    (values : ∀ place, place < nexts.length → ∀ last, bytesOf (nexts.getD place id last) =
      scheduled fsb.at keyLength (words.length + place) (bytesOf last)) :
    Expanded keyLength key (extendAll keyLength words nexts) ∧
      (extendAll keyLength words nexts).length = words.length + nexts.length := by
  induction nexts generalizing words with
  | nil => exact ⟨expanded, rfl⟩
  | cons next nexts ih =>
    have more := expanded.extend positive long next (values 0 (by simp))
    have length : (Aes.extend keyLength words next).length = words.length + 1 := by
      simp [Aes.extend]
    have later := ih (Aes.extend keyLength words next) more (by omega) (by
      intro place inside last
      have value := values (place + 1) (by simpa using inside) last
      have shifted : words.length + (place + 1) = words.length + 1 + place := by omega
      rw [length, ← shifted]
      exact value)
    constructor
    · exact later.1
    · rw [List.length_cons]
      have total := later.2
      rw [length] at total
      show (Aes.extendAll keyLength (Aes.extend keyLength words next) nexts).length = _
      omega

/-- A loop whose passes extend the schedule by one key length each expands the key. -/
theorem Expanded.loop {keyLength : Nat} {key : Nat → Column} (positive : 0 < keyLength)
    (nexts : UInt32 → List (UInt32 → UInt32)) (body : List UInt32 → UInt32 → List UInt32)
    (count : ∀ constant, (nexts constant).length = keyLength)
    (passes : ∀ words constant, keyLength ≤ words.length →
      body words constant = Aes.extendAll keyLength words (nexts constant))
    (values : ∀ constant round, bytesOf constant = rcon round → ∀ place, place < keyLength →
      ∀ last, bytesOf ((nexts constant).getD place id last) =
        scheduled fsb.at keyLength (keyLength * round + place) (bytesOf last))
    (constants : List UInt32) (round : Nat) (words : List UInt32)
    (expanded : Expanded keyLength key words) (length : words.length = keyLength * (round + 1))
    (powers : ∀ place, place < constants.length →
      bytesOf (constants.getD place 0) = rcon (round + 1 + place)) :
    Expanded keyLength key (constants.foldl body words) ∧
      (constants.foldl body words).length = keyLength * (round + 1 + constants.length) := by
  induction constants generalizing round words with
  | nil => exact ⟨expanded, length⟩
  | cons constant constants ih =>
    have long : keyLength ≤ words.length := by
      rw [length]
      exact Nat.le_mul_of_pos_right keyLength (by omega)
    have power : bytesOf constant = rcon (round + 1) := powers 0 (by simp)
    have pass := Expanded.extendAll positive (nexts constant) words expanded long (by
      intro place inside last
      rw [length]
      exact values constant (round + 1) power place (by rw [← count constant]; exact inside) last)
    rw [← passes words constant long, count constant] at pass
    have total : (body words constant).length = keyLength * (round + 1 + 1) := by
      rw [pass.2, length, Nat.mul_succ keyLength (round + 1)]
    have later := ih (round + 1) (body words constant) pass.1 total (by
      intro place inside
      have value := powers (place + 1) (by simpa using inside)
      have shifted : round + 1 + (place + 1) = round + 1 + 1 + place := by omega
      rw [← shifted]
      exact value)
    have counted : round + 1 + (constants.length + 1) = round + 1 + 1 + constants.length := by
      omega
    rw [List.foldl_cons, List.length_cons, counted]
    exact later

/-- The round constants are the powers of `x`. -/
theorem bytesOf_rcons (place : Nat) (inside : place < 10) :
    bytesOf (rcons.getD place 0) = rcon (place + 1) := by
  have powers : ∀ (place : Fin 10) (row : Fin 4),
      bytesOf (rcons.getD place.val 0) row = rcon (place.val + 1) row := by decide +kernel
  funext row
  exact powers ⟨place, inside⟩ row

/-- The substituted and rotated word. -/
theorem bytesOf_substitutedRotated (word : UInt32) :
    bytesOf (substitutedRotated word) = subWord fsb.at (rotWord (bytesOf word)) := by
  have moved := bytesOf_moved (fsb.at (bytesOf word 1)) (fsb.at (bytesOf word 2))
    (fsb.at (bytesOf word 3)) (fsb.at (bytesOf word 0))
  refine moved.trans ?_
  funext row
  rcases row_cases row with rfl | rfl | rfl | rfl <;> rfl

/-- The substituted word. -/
theorem bytesOf_substituted (word : UInt32) :
    bytesOf (substituted word) = subWord fsb.at (bytesOf word) := by
  have moved := bytesOf_moved (fsb.at (bytesOf word 0)) (fsb.at (bytesOf word 1))
    (fsb.at (bytesOf word 2)) (fsb.at (bytesOf word 3))
  refine moved.trans ?_
  funext row
  rcases row_cases row with rfl | rfl | rfl | rfl <;> rfl

/-- The first value of a pass is the scheduled one. -/
theorem scheduled_first (keyLength round : Nat) (positive : 0 < keyLength) (constant last : UInt32)
    (power : bytesOf constant = rcon round) :
    bytesOf (constant ^^^ substitutedRotated last) =
      scheduled fsb.at keyLength (keyLength * round + 0) (bytesOf last) := by
  have divides : keyLength * round / keyLength = round := Nat.mul_div_cancel_left round positive
  have swap : bytesOf (constant ^^^ substitutedRotated last) =
      Column.add (bytesOf (substitutedRotated last)) (bytesOf constant) := by
    rw [bytesOf_add]
    funext row
    exact UInt8.xor_comm _ _
  rw [swap, bytesOf_substitutedRotated, power, scheduled, Nat.add_zero,
    if_pos (Nat.mul_mod_right keyLength round), divides]

/-- A later value of a pass is the word before, or that word substituted. -/
theorem scheduled_later (keyLength round place : Nat) (last : UInt32)
    (within : place < keyLength) (later : 0 < place) :
    scheduled fsb.at keyLength (keyLength * round + place) (bytesOf last) =
      if 6 < keyLength ∧ place = 4 then subWord fsb.at (bytesOf last) else bytesOf last := by
  have rest : (keyLength * round + place) % keyLength = place := by
    rw [Nat.mul_add_mod, Nat.mod_eq_of_lt within]
  rw [scheduled, rest, if_neg (by omega)]

/-- The passes of the shortest keys add the scheduled values. -/
theorem nexts10_scheduled (constant : UInt32) (round : Nat) (power : bytesOf constant = rcon round)
    (place : Nat) (within : place < 4) (last : UInt32) :
    bytesOf ((nexts10 constant).getD place id last) =
      scheduled fsb.at 4 (4 * round + place) (bytesOf last) := by
  have cases : place = 0 ∨ place = 1 ∨ place = 2 ∨ place = 3 := by omega
  rcases cases with rfl | rfl | rfl | rfl
  · exact scheduled_first 4 round (by decide) constant last power
  all_goals
    rw [scheduled_later 4 round _ last (by decide) (by decide), if_neg (by decide)]
    rfl

/-- The passes of the middle keys add the scheduled values. -/
theorem nexts12_scheduled (constant : UInt32) (round : Nat) (power : bytesOf constant = rcon round)
    (place : Nat) (within : place < 6) (last : UInt32) :
    bytesOf ((nexts12 constant).getD place id last) =
      scheduled fsb.at 6 (6 * round + place) (bytesOf last) := by
  have cases : place = 0 ∨ place = 1 ∨ place = 2 ∨ place = 3 ∨ place = 4 ∨ place = 5 := by omega
  rcases cases with rfl | rfl | rfl | rfl | rfl | rfl
  · exact scheduled_first 6 round (by decide) constant last power
  all_goals
    rw [scheduled_later 6 round _ last (by decide) (by decide), if_neg (by decide)]
    rfl

/-- The passes of the longest keys add the scheduled values. -/
theorem nexts14_scheduled (constant : UInt32) (round : Nat) (power : bytesOf constant = rcon round)
    (place : Nat) (within : place < 8) (last : UInt32) :
    bytesOf ((nexts14 constant).getD place id last) =
      scheduled fsb.at 8 (8 * round + place) (bytesOf last) := by
  have cases : place = 4 ∨ place = 0 ∨ place = 1 ∨ place = 2 ∨ place = 3 ∨ place = 5 ∨
    place = 6 ∨ place = 7 := by omega
  rcases cases with rfl | rfl | rfl | rfl | rfl | rfl | rfl | rfl
  · rw [scheduled_later 8 round 4 last (by decide) (by decide), if_pos (by decide)]
    exact bytesOf_substituted last
  · exact scheduled_first 8 round (by decide) constant last power
  all_goals
    rw [scheduled_later 8 round _ last (by decide) (by decide), if_neg (by decide)]
    rfl

/-- The words that a key starts its schedule with. -/
def keyWords (key : List UInt8) (keyLength : Nat) : List UInt32 :=
  (List.range keyLength).map fun i => getUint32LE key (i <<< 2)

/-- The starting words are the key. -/
theorem keyWords_expanded (key : List UInt8) (keyLength : Nat) :
    Expanded keyLength (keyColumns key) (keyWords key keyLength) ∧
      (keyWords key keyLength).length = keyLength := by
  have length : (keyWords key keyLength).length = keyLength := by simp [keyWords]
  refine ⟨⟨?_, ?_⟩, length⟩
  · intro place inside
    have word : (keyWords key keyLength).getD place 0 = getUint32LE key (place <<< 2) := by
      simp [keyWords, inside]
    have start : place <<< 2 = 4 * place := by
      rw [Nat.shiftLeft_eq]
      omega
    funext row
    rw [columnsOf, word, start, getUint32LE, ← ofBytes, bytesOf_ofBytes]
    rcases row_cases row with rfl | rfl | rfl | rfl <;> rfl
  · intro place behind inside
    omega

/-- The number of rounds for a key size in bits. -/
def roundsOf (keysize : Nat) : Nat := keysize / 32 + 6

/-- The encryption's schedule expands its key over all its rounds. -/
theorem aesSetkeyEnc_expands (key : List UInt8) (keysize : Nat)
    (size : keysize = 128 ∨ keysize = 192 ∨ keysize = 256) :
    ∃ ctx, aesSetkeyEnc key keysize = some ctx ∧ ctx.nr = roundsOf keysize ∧
      Expands fsb.at (keysize / 32) (keyColumns key) (4 * (ctx.nr + 1)) ctx.columns := by
  have shorten {keyLength : Nat} {words : List UInt32} {count : Nat}
      (expanded : Expanded keyLength (keyColumns key) words) (le : count ≤ words.length) :
      Expands fsb.at keyLength (keyColumns key) count (columnsOf words) := by
    constructor
    · exact expanded.key
    · intro place behind inside
      exact expanded.next place behind (by omega)
  have powers (constants : List UInt32) (prefixOf : constants <+: rcons) (place : Nat)
      (inside : place < constants.length) :
      bytesOf (constants.getD place 0) = rcon (0 + 1 + place) := by
    have le : constants.length ≤ 10 := prefixOf.length_le
    have same : constants.getD place 0 = rcons.getD place 0 := by
      obtain ⟨rest, whole⟩ := prefixOf
      rw [← whole, List.getD_append _ _ _ _ inside]
    rw [same, bytesOf_rcons place (by omega)]
    congr 1
    omega
  rcases size with rfl | rfl | rfl
  · have started := keyWords_expanded key 4
    have looped := Expanded.loop (by decide) nexts10 expand10 (fun _ => rfl)
      (fun words constant long => expand10_eq words constant long)
      (fun constant round power => nexts10_scheduled constant round power) rcons 0 _
      started.1 started.2 (powers rcons (List.prefix_refl rcons))
    have long : 44 ≤ (rcons.foldl expand10 (keyWords key 4)).length := by
      rw [looped.2]
      decide
    exact ⟨_, rfl, rfl, shorten looped.1 long⟩
  · have started := keyWords_expanded key 6
    have looped := Expanded.loop (by decide) nexts12 expand12 (fun _ => rfl)
      (fun words constant long => expand12_eq words constant long)
      (fun constant round power => nexts12_scheduled constant round power) (rcons.take 8) 0 _
      started.1 started.2 (powers (rcons.take 8) (List.take_prefix 8 rcons))
    have long : 52 ≤ ((rcons.take 8).foldl expand12 (keyWords key 6)).length := by
      rw [looped.2]
      decide
    exact ⟨_, rfl, rfl, shorten looped.1 long⟩
  · have started := keyWords_expanded key 8
    have looped := Expanded.loop (by decide) nexts14 expand14 (fun _ => rfl)
      (fun words constant long => expand14_eq words constant long)
      (fun constant round power => nexts14_scheduled constant round power) (rcons.take 7) 0 _
      started.1 started.2 (powers (rcons.take 7) (List.take_prefix 7 rcons))
    have long : 60 ≤ ((rcons.take 7).foldl expand14 (keyWords key 8)).length := by
      rw [looped.2]
      decide
    exact ⟨_, rfl, rfl, shorten looped.1 long⟩

/-- The inner words of the decryption's schedule are the unmixed words in reverse rounds. -/
theorem invertLoop_word (words : List UInt32) (i round place : Nat) (before : round < i)
    (within : place < 4) :
    (invertLoop words i (4 * i)).getD (4 * round + place) 0 =
      invertedWord (words.getD (4 * (i - round) + place) 0) := by
  induction i generalizing round with
  | zero => omega
  | succ i ih =>
    have back : 4 * (i + 1) + 4 - 8 = 4 * i := by omega
    have first : ((fourWords words (4 * (i + 1))).map invertedWord).length = 4 := rfl
    rw [invertLoop, back]
    by_cases here : round = 0
    · have cases : place = 0 ∨ place = 1 ∨ place = 2 ∨ place = 3 := by omega
      rw [here, List.getD_append _ _ _ _ (by omega)]
      rcases cases with rfl | rfl | rfl | rfl <;> rfl
    · have shifted : 4 * round + place - 4 = 4 * (round - 1) + place := by omega
      have same : i + 1 - round = i - (round - 1) := by omega
      rw [List.getD_append_right _ _ _ _ (by omega), first, shifted, ih (round - 1) (by omega),
        same]

/-- The length of the inner words. -/
theorem invertLoop_length (words : List UInt32) (i SK : Nat) :
    (invertLoop words i SK).length = 4 * i := by
  induction i generalizing SK with
  | zero => rfl
  | succ i ih =>
    simp only [invertLoop, List.length_append, List.length_map, ih, fourWords, List.length_cons,
      List.length_nil]
    omega

/-- The decryption's schedule is the inverse cipher's. -/
theorem invertedContext_keys (ctx : AesContext) (positive : 1 < ctx.nr) (round : Nat)
    (within : round ≤ ctx.nr) : roundKey (invertedContext ctx).columns round =
      (layers sbox).inverseKeys (ctx.nr - 1) (roundKey ctx.columns) round := by
  have back : ctx.nr * 4 + 4 - 8 = 4 * (ctx.nr - 1) := by omega
  have outer : (fourWords ctx.rk (ctx.nr * 4)).length = 4 := rfl
  have inner := invertLoop_length ctx.rk (ctx.nr - 1) (4 * (ctx.nr - 1))
  funext place
  have four := place.isLt
  simp only [roundKey, AesContext.columns, invertedContext, back]
  by_cases first : round = 0
  · rw [Layers.inverseKeys, if_pos (Or.inl first), first]
    rw [List.append_assoc, List.getD_append _ _ _ _ (by omega)]
    have last : ctx.nr - 1 + 1 - 0 = ctx.nr := by omega
    rw [last, roundKey, Nat.mul_comm 4 ctx.nr]
    rcases row_cases place with rfl | rfl | rfl | rfl <;> rfl
  by_cases last : round = ctx.nr
  · have whole : round = ctx.nr - 1 + 1 := by omega
    have position : 4 * round + place.val - (4 + 4 * (ctx.nr - 1)) = place.val := by omega
    rw [Layers.inverseKeys, if_pos (Or.inr whole)]
    rw [List.getD_append_right _ _ _ _ (by rw [List.length_append, outer, inner]; omega),
      List.length_append, outer, inner, position]
    have none : ctx.nr - 1 + 1 - round = 0 := by omega
    rw [none, roundKey]
    rcases row_cases place with rfl | rfl | rfl | rfl <;> rfl
  · have position : 4 * round + place.val - 4 = 4 * (round - 1) + place.val := by omega
    have mirrored : ctx.nr - 1 - (round - 1) = ctx.nr - 1 + 1 - round := by omega
    rw [Layers.inverseKeys, if_neg (by omega), List.append_assoc,
      List.getD_append_right _ _ _ _ (by omega), outer, position,
      List.getD_append _ _ _ _ (by rw [inner]; omega),
      invertLoop_word ctx.rk (ctx.nr - 1) (round - 1) place.val (by omega) four,
      bytesOf_invertedWord, mirrored]
    rfl

end Udp2raw.Aes
