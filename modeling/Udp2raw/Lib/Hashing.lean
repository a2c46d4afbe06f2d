import Udp2raw.Data.BlockHash

/-!
# The hash contexts

The three hash libraries keep the same kind of context: a count of bytes in two words, the
state of the compression, and a buffer for an unfinished block. Their update and finish
functions differ in the compression, in the byte order of the length field and in the word
type of the count, which are parameters here. Whatever pieces a message is fed in, the
context represents it, and the digest is the padded message's.
-/
namespace Udp2raw.Hashing

open BlockHash

/-- What the hash functions differ in. -/
structure HashKind where
  /-- The state of the compression. -/
  State : Type
  /-- The state that the start function sets. -/
  start : State
  /-- The process function on a block of 64 bytes. -/
  process : State → List UInt8 → State
  /-- The length of an input as the count's word type takes it. -/
  counted : Nat → Nat
  /-- A length below the count's range is taken as it is. -/
  counted_small : ∀ length, length < 2 ^ 32 → counted length = length
  /-- The eight bytes of the length field from its low and its high word. -/
  msglen : UInt32 → UInt32 → List UInt8
  /-- The field has eight bytes. -/
  msglen_length : ∀ low high, (msglen low high).length = 8
  /-- The digest's bytes from the last state. -/
  output : State → List UInt8
  /-- The length of a digest. -/
  digestLength : Nat
  /-- A digest has this length. -/
  output_length : ∀ state, (output state).length = digestLength
  /-- A digest has a byte, and a block has room for it. -/
  digest_fits : 0 < digestLength ∧ digestLength ≤ 64

/-- A hash context. -/
structure HashContext (State : Type) where
  /-- `total[0]`. -/
  total0 : Nat
  /-- `total[1]`. -/
  total1 : Nat
  /-- `state`. -/
  state : State
  /-- `buffer`. -/
  buffer : List UInt8

variable (kind : HashKind)

/-- The start function: the buffer stays as it is. -/
def starts (ctx : HashContext kind.State) : HashContext kind.State :=
  { ctx with total0 := 0, total1 := 0, state := kind.start }

/-- `memcpy` into a buffer at a place. -/
def copyAt (buffer : List UInt8) (place : Nat) (data : List UInt8) : List UInt8 :=
  buffer.take place ++ data ++ buffer.drop (place + data.length)

/-- The loop over the whole blocks of an input: the state and the rest of the input. -/
def processLoop (state : kind.State) (input : List UInt8) : kind.State × List UInt8 :=
  if 64 ≤ input.length then processLoop (kind.process state (input.take 64)) (input.drop 64)
  else (state, input)
termination_by input.length
decreasing_by
  simp only [List.length_drop]
  omega

/-- The branch that fills the buffer up and processes it: the state, the buffer, `left` and the
rest of the input. -/
def fillBuffer (ctx : HashContext kind.State) (left : Nat) (input : List UInt8) :
    kind.State × List UInt8 × Nat × List UInt8 :=
  let fill := 64 - left
  if left ≠ 0 ∧ fill ≤ input.length then
    let buffer := copyAt ctx.buffer left (input.take fill)
    (kind.process ctx.state buffer, buffer, 0, input.drop fill)
  else (ctx.state, ctx.buffer, left, input)

/-- The update function. -/
def update (ctx : HashContext kind.State) (input : List UInt8) : HashContext kind.State :=
  let ilen := input.length
  if ilen = 0 then ctx
  else
    let left := ctx.total0 % 64
    let total0 := (ctx.total0 + kind.counted ilen) % 2 ^ 32
    let total1 := if total0 < kind.counted ilen then ctx.total1 + 1 else ctx.total1
    let (state, buffer, left, input) := fillBuffer kind ctx left input
    let (state, input) := processLoop kind state input
    let buffer := if 0 < input.length then copyAt buffer left input else buffer
    ⟨total0, total1, state, buffer⟩

/-- The constant padding of 64 bytes. -/
def paddingBytes : List UInt8 := 0x80 :: List.replicate 63 0

/-- The length field from the count. -/
def lengthField (ctx : HashContext kind.State) : List UInt8 :=
  let high := (ctx.total0 >>> 29) ||| (ctx.total1 <<< 3)
  let low := ctx.total0 <<< 3
  kind.msglen (UInt32.ofNat low) (UInt32.ofNat high)

/-- The finish function: the digest and the context it leaves. -/
def finish (ctx : HashContext kind.State) : List UInt8 × HashContext kind.State :=
  let field := lengthField kind ctx
  let last := ctx.total0 % 64
  let padn := if last < 56 then 56 - last else 120 - last
  let ctx := update kind ctx (paddingBytes.take padn)
  let ctx := update kind ctx field
  (kind.output ctx.state, ctx)

/-! ### What a context stands for -/

/-- A context that has taken in a message since its start. -/
structure Represents (ctx : HashContext kind.State) (message : List UInt8) : Prop where
  /-- Its count is the message's length. -/
  total0 : ctx.total0 = message.length % 2 ^ 32
  /-- The carries of the count. -/
  total1 : ctx.total1 = message.length / 2 ^ 32
  /-- The whole blocks have been processed. -/
  state : ctx.state = absorb kind.process 64 kind.start message
  /-- The buffer starts with the rest. -/
  buffer : ctx.buffer.take (message.length % 64) = residue 64 message
  /-- The buffer holds a block. -/
  size : ctx.buffer.length = 64

variable {kind}

/-- A started context represents the empty message. -/
theorem starts_represents (ctx : HashContext kind.State) (size : ctx.buffer.length = 64) :
    Represents kind (starts kind ctx) [] where
  total0 := rfl
  total1 := rfl
  state := (absorb_short kind.start [] (by decide)).symm
  buffer := rfl
  size := size

/-- The loop absorbs the whole blocks and leaves the residue. -/
theorem processLoop_eq (state : kind.State) (input : List UInt8) :
    processLoop kind state input = (absorb kind.process 64 state input, residue 64 input) := by
  induction input using (measure List.length).wf.induction generalizing state with
  | _ input ih =>
    unfold processLoop
    by_cases whole : 64 ≤ input.length
    · have full : (input.take 64).length = 64 := by
        rw [List.length_take]
        omega
      have shorter : (input.drop 64).length < input.length := by
        rw [List.length_drop]
        omega
      have split : input = input.take 64 ++ input.drop 64 := (List.take_append_drop _ _).symm
      have absorbed := @absorb_block _ kind.process _ (by decide) state
        (input.take 64) (input.drop 64) full
      have left := @residue_block 64 (by decide) (input.take 64) (input.drop 64) full
      rw [← split] at absorbed left
      rw [if_pos whole, ih (input.drop 64) shorter, absorbed, left]
    · rw [if_neg whole, absorb_short _ _ (by omega), residue_short _ (by omega)]

/-- Copying keeps the length of a buffer with room for the data. -/
theorem copyAt_length (buffer : List UInt8) (place : Nat) (data : List UInt8)
    (room : place + data.length ≤ buffer.length) :
    (copyAt buffer place data).length = buffer.length := by
  simp only [copyAt, List.length_append, List.length_take, List.length_drop]
  omega

/-- A copied buffer starts with what was in front and the data. -/
theorem copyAt_take (buffer : List UInt8) (place : Nat) (data : List UInt8)
    (room : place + data.length ≤ buffer.length) :
    (copyAt buffer place data).take (place + data.length) = buffer.take place ++ data := by
  have front : (buffer.take place ++ data).length = place + data.length := by
    simp only [List.length_append, List.length_take]
    omega
  rw [copyAt, ← front, List.take_left]

/-- Filling the buffer up and looping over the rest absorbs the old residue with the input. -/
theorem fillBuffer_absorbs (ctx : HashContext kind.State) (left : Nat) (input : List UInt8)
    (inside : left < 64) (size : ctx.buffer.length = 64) :
    ∃ state buffer place rest, fillBuffer kind ctx left input = (state, buffer, place, rest) ∧
      buffer.length = 64 ∧ place + (residue 64 rest).length < 64 ∧
      absorb kind.process 64 state rest =
        absorb kind.process 64 ctx.state (ctx.buffer.take left ++ input) ∧
      buffer.take place ++ residue 64 rest = residue 64 (ctx.buffer.take left ++ input) := by
  have front : (ctx.buffer.take left).length = left := by
    rw [List.length_take]
    omega
  have tail (data : List UInt8) := Nat.mod_lt data.length (show 0 < 64 by decide)
  unfold fillBuffer
  by_cases fills : left ≠ 0 ∧ 64 - left ≤ input.length
  · have taken : (input.take (64 - left)).length = 64 - left := by
      rw [List.length_take]
      omega
    have room : left + (input.take (64 - left)).length ≤ ctx.buffer.length := by omega
    have whole : copyAt ctx.buffer left (input.take (64 - left)) =
        ctx.buffer.take left ++ input.take (64 - left) := by
      have copied := copyAt_take ctx.buffer left (input.take (64 - left)) room
      have length := copyAt_length ctx.buffer left (input.take (64 - left)) room
      have all : left + (input.take (64 - left)).length =
          (copyAt ctx.buffer left (input.take (64 - left))).length := by omega
      rw [all, List.take_length] at copied
      exact copied
    have full : (ctx.buffer.take left ++ input.take (64 - left)).length = 64 := by
      rw [List.length_append, front, taken]
      omega
    have split : ctx.buffer.take left ++ input =
        (ctx.buffer.take left ++ input.take (64 - left)) ++ input.drop (64 - left) := by
      rw [List.append_assoc, List.take_append_drop]
    refine ⟨_, _, 0, input.drop (64 - left), if_pos fills, ?_, ?_, ?_, ?_⟩
    · rw [copyAt_length _ _ _ room, size]
    · rw [residue_length]
      have short := tail (input.drop (64 - left))
      omega
    · rw [split, absorb_block (by decide) _ _ _ full, whole]
    · rw [split, residue_block (by decide) _ _ full]
      rfl
  · refine ⟨_, _, left, input, if_neg fills, size, ?_, ?_, ?_⟩
    · rw [residue_length]
      by_cases start : left = 0
      · have short := tail input
        omega
      · have short : input.length < 64 - left := by omega
        rw [Nat.mod_eq_of_lt (by omega)]
        omega
    · by_cases start : left = 0
      · rw [start]
        rfl
      · have short : input.length < 64 - left := by omega
        have both : (ctx.buffer.take left ++ input).length < 64 := by
          rw [List.length_append, front]
          omega
        rw [absorb_short _ _ (by omega), absorb_short _ _ both]
    · by_cases start : left = 0
      · rw [start]
        rfl
      · have short : input.length < 64 - left := by omega
        have both : (ctx.buffer.take left ++ input).length < 64 := by
          rw [List.length_append, front]
          omega
        rw [residue_short _ (by omega), residue_short _ both]

/-- The two words of the count carry like one number. -/
theorem count_carry (length more : Nat) (small : more < 2 ^ 32) :
    (length % 2 ^ 32 + more) % 2 ^ 32 = (length + more) % 2 ^ 32 ∧
      (if (length % 2 ^ 32 + more) % 2 ^ 32 < more then length / 2 ^ 32 + 1
        else length / 2 ^ 32) = (length + more) / 2 ^ 32 := by
  constructor
  · omega
  · split <;> omega

/-- An update makes the context represent the longer message. -/
theorem Represents.update {ctx : HashContext kind.State} {message : List UInt8}
    (represents : Represents kind ctx message) (input : List UInt8)
    (small : input.length < 2 ^ 32) :
    Represents kind (update kind ctx input) (message ++ input) := by
  by_cases nothing : input.length = 0
  · have empty : input = [] := List.eq_nil_of_length_eq_zero nothing
    rw [empty, List.append_nil, Hashing.update]
    exact represents
  have left : ctx.total0 % 64 = message.length % 64 := by
    rw [represents.total0]
    omega
  have inside : message.length % 64 < 64 := Nat.mod_lt _ (by decide)
  obtain ⟨state, buffer, place, rest, filled, size, room, absorbed, remains⟩ :=
    fillBuffer_absorbs ctx (message.length % 64) input inside represents.size
  have counted := kind.counted_small input.length small
  have carry := count_carry message.length input.length small
  have whole := @absorb_more _ kind.process 64 (by decide) kind.start
    message input
  rw [represents.buffer, represents.state, ← whole.1] at absorbed
  rw [represents.buffer, ← whole.2] at remains
  have updated : Hashing.update kind ctx input =
      ⟨(ctx.total0 + input.length) % 2 ^ 32,
        if (ctx.total0 + input.length) % 2 ^ 32 < input.length then ctx.total1 + 1 else ctx.total1,
        absorb kind.process 64 state rest,
        if 0 < (residue 64 rest).length then copyAt buffer place (residue 64 rest)
          else buffer⟩ := by
    simp only [Hashing.update, if_neg nothing, left, filled, processLoop_eq, counted]
  have length : (message ++ input).length = message.length + input.length := List.length_append
  have ends : (residue 64 (message ++ input)).length = (message ++ input).length % 64 :=
    residue_length _
  have kept : buffer.take place ++ residue 64 rest = residue 64 (message ++ input) := remains
  have fits : place + (residue 64 rest).length = (message ++ input).length % 64 := by
    rw [← ends, ← kept, List.length_append, List.length_take]
    omega
  rw [updated]
  constructor
  · rw [length]
    show (ctx.total0 + input.length) % 2 ^ 32 = _
    rw [represents.total0, carry.1]
  · rw [length]
    show (if _ then _ else _) = _
    rw [represents.total0, represents.total1, carry.2]
  · exact absorbed
  · show (if _ then _ else _ : List UInt8).take _ = _
    by_cases more : 0 < (residue 64 rest).length
    · rw [if_pos more, ← fits, copyAt_take _ _ _ (by omega), kept]
    · have none : residue 64 rest = [] := List.eq_nil_of_length_eq_zero (by omega)
      rw [none, List.append_nil] at kept
      rw [none, List.length_nil, Nat.add_zero] at fits
      rw [if_neg more, ← fits, kept]
  · show (if _ then _ else _ : List UInt8).length = 64
    by_cases more : 0 < (residue 64 rest).length
    · rw [if_pos more, copyAt_length _ _ _ (by omega), size]
    · rw [if_neg more, size]

/-- The length field of a number of bits. -/
def HashKind.field (kind : HashKind) (bits : Nat) : List UInt8 :=
  kind.msglen (UInt32.ofNat bits) (UInt32.ofNat (bits / 2 ^ 32))

/-- The two words of the count give the length in bits. -/
theorem lengthField_eq {ctx : HashContext kind.State} {message : List UInt8}
    (represents : Represents kind ctx message) :
    lengthField kind ctx = kind.field (8 * message.length) := by
  have low : UInt32.ofNat (ctx.total0 <<< 3) = UInt32.ofNat (8 * message.length) := by
    apply UInt32.toNat_inj.mp
    rw [UInt32.toNat_ofNat', UInt32.toNat_ofNat', represents.total0, Nat.shiftLeft_eq]
    omega
  have high : (ctx.total0 >>> 29) ||| (ctx.total1 <<< 3) = 8 * message.length / 2 ^ 32 := by
    have small : message.length % 2 ^ 32 / 2 ^ 29 < 2 ^ 3 := by omega
    have apart := Nat.two_pow_add_eq_or_of_lt small (message.length / 2 ^ 32)
    rw [represents.total0, represents.total1, Nat.shiftRight_eq_div_pow, Nat.or_comm,
      Nat.shiftLeft_eq, Nat.mul_comm, ← apart]
    omega
  rw [lengthField, HashKind.field, low, high]

/-- The padding that finishing feeds in is the padding of the message. -/
theorem padding_eq (field : Nat → List UInt8) (length last : Nat) (rest : last = length % 64) :
    paddingBytes.take (if last < 56 then 56 - last else 120 - last) ++ field (8 * length) =
      paddingOf field length := by
  have zeros : (if last < 56 then 56 - last else 120 - last) = (119 - length % 64) % 64 + 1 := by
    rw [rest]
    split <;> omega
  have few : (119 - length % 64) % 64 ≤ 63 := by omega
  rw [zeros, paddingOf, paddingBytes, List.take_succ_cons, List.take_replicate, Nat.min_eq_left few]

/-- Finishing a context gives the digest of the message it represents. -/
theorem finish_digest {ctx : HashContext kind.State} {message : List UInt8}
    (represents : Represents kind ctx message) : (finish kind ctx).1 =
      digest kind.process kind.field kind.start kind.output message := by
  have last : ctx.total0 % 64 = message.length % 64 := by
    rw [represents.total0]
    omega
  have padded := represents.update (paddingBytes.take
      (if ctx.total0 % 64 < 56 then 56 - ctx.total0 % 64 else 120 - ctx.total0 % 64)) (by
    rw [List.length_take]
    have short : paddingBytes.length = 64 := rfl
    omega)
  have ended := padded.update (lengthField kind ctx) (by
    have eight : (lengthField kind ctx).length = 8 := kind.msglen_length _ _
    omega)
  rw [List.append_assoc, lengthField_eq represents,
    padding_eq kind.field message.length _ last] at ended
  have reached := ended.state
  rw [digest, ← reached, finish, lengthField_eq represents]

/-- The digest does not depend on how a message is cut into pieces. -/
theorem finish_pieces (ctx : HashContext kind.State) (size : ctx.buffer.length = 64)
    (pieces : List (List UInt8)) (small : ∀ piece ∈ pieces, piece.length < 2 ^ 32) :
    (finish kind (pieces.foldl (update kind) (starts kind ctx))).1 =
      digest kind.process kind.field kind.start kind.output pieces.flatten := by
  have fed (pieces : List (List UInt8)) : ∀ (ctx : HashContext kind.State) (message : List UInt8),
      Represents kind ctx message → (∀ piece ∈ pieces, piece.length < 2 ^ 32) →
      Represents kind (pieces.foldl (update kind) ctx) (message ++ pieces.flatten) := by
    induction pieces with
    | nil =>
      intro ctx message represents small
      simpa using represents
    | cons piece pieces ih =>
      intro ctx message represents small
      have first := represents.update piece (small piece List.mem_cons_self)
      have later := ih _ _ first fun other member => small other (List.mem_cons_of_mem _ member)
      rw [List.append_assoc] at later
      exact later
  have represents := fed pieces _ _ (starts_represents ctx size) small
  rw [List.nil_append] at represents
  exact finish_digest represents

end Udp2raw.Hashing
