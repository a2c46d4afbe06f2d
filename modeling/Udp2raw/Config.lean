import Udp2raw.Data.CString
import Udp2raw.Misc

/-!
# Lines of the configuration file

A line of the file holds an option of the command line and perhaps its value. The parser
works in a copy of the line: it clears the blanks at the end, skips those in front, and cuts
the rest at its first blank. Its places and lengths are of type `int`.
-/
namespace Udp2raw

/-- Why the parser stopped. -/
inductive ConfFault where
  /-- A scan left the buffer of the line. -/
  | outside
  /-- A result that `int` does not hold. -/
  | overflow
  /-- `myexit` after `line :<...> not begin with '-'`, with the text in the brackets. -/
  | exit (text : Bytes)
  deriving DecidableEq, Repr

/-- What the parser computes. -/
abbrev ConfExec (α : Type) := Except ConfFault α

/-- What a scan found. -/
def inBuffer {α : Type} : Option α → ConfExec α
  | none => .error .outside
  | some result => .ok result

/-- The test `c == ' ' || c == '\t'`. -/
def blank (c : UInt8) : Bool := c == 0x20 || c == 0x09

/-- The conversion of a `size_t` to `int`. -/
def sizeToInt (size : Nat) : Int := Int.bmod size (2 ^ 32)

/-- `int(s.length()) - 1`. -/
def lastIndex (length : Nat) : ConfExec Int :=
  if sizeToInt length = -2 ^ 31 then .error .overflow else .ok (sizeToInt length - 1)

/-- `parse_conf_line` after its first two loops, with `p` behind the blanks in front and
`new_len` as the length from there on. -/
def parseConfFields (buf : Bytes) (p : Nat) (newLen : Int) : ConfExec (List Bytes) := do
  if newLen = 0 then return [] else
  let first ← inBuffer buf[p]?
  if first = 0x23 then return [] else
  if first ≠ 0x2d then throw (.exit (← inBuffer (cString buf))) else
  let i ← inBuffer (scanWithin (fun c => !blank c) newLen.toNat (buf.drop p))
  if i = newLen then return [← inBuffer (cString (buf.drop p))] else
  let j := i + (← inBuffer (scan blank (buf.drop (p + i))))
  if 2 ^ 31 ≤ j then throw .overflow else
  let cut := buf.set (p + i) 0
  return [← inBuffer (cString (cut.drop p)), ← inBuffer (cString (cut.drop (p + j)))]

/-- `parse_conf_line`. -/
def parseConfLine (s : Bytes) : ConfExec (List Bytes) := do
  let i ← lastIndex s.length
  let buf ← inBuffer (clearBack blank (s ++ [0]) (i + 1).toNat)
  let p ← inBuffer (scan (fun c => c != 0 && blank c) buf)
  let newLen ← inBuffer (strlen (buf.drop p))
  parseConfFields buf p (sizeToInt newLen)

/-! ## What a line says -/

/-- Spaces and tabs only. -/
def Blanks (bytes : Bytes) : Prop := ∀ c ∈ bytes, blank c = true

/-- The text of an option. -/
structure ConfOption (option : Bytes) : Prop where
  /-- It begins with `-`. -/
  dash : option.head? = some 0x2d
  /-- It has no blanks. -/
  solid : ∀ c ∈ option, blank c = false

/-- The text of a value. -/
structure ConfValue (value : Bytes) : Prop where
  /-- It has a first byte, which is not blank. -/
  first : ∃ c ∈ value.head?, blank c = false
  /-- Its last byte is not blank. -/
  last : ∀ c ∈ value.getLast?, blank c = false

/-- What the parser has to find in a line. -/
structure ConfLineLaw (line : Bytes) : Prop where
  /-- An option and its value. -/
  pair : ∀ front option middle value back : Bytes,
    line = front ++ option ++ middle ++ value ++ back → Blanks front → ConfOption option →
      Blanks middle → middle ≠ [] → ConfValue value → Blanks back →
        parseConfLine line = .ok [option, value]
  /-- An option alone. -/
  option : ∀ front option back : Bytes, line = front ++ option ++ back → Blanks front →
    ConfOption option → Blanks back → parseConfLine line = .ok [option]
  /-- Nothing in a blank line. -/
  blank : Blanks line → parseConfLine line = .ok []
  /-- Nothing in a comment. -/
  comment : ∀ front text : Bytes, line = front ++ 0x23 :: text → Blanks front →
    parseConfLine line = .ok []
  /-- No scan leaves the buffer. -/
  inside : parseConfLine line ≠ .error .outside

/-- What is left of a line between the blanks in front and those at the end. -/
structure Trimmed (core : Bytes) : Prop where
  /-- It is a text. -/
  text : (0 : UInt8) ∉ core
  /-- Its first byte is not blank. -/
  first : ∀ c ∈ core.head?, blank c = false
  /-- Its last byte is not blank. -/
  last : ∀ c ∈ core.getLast?, blank c = false

@[simp] theorem inBuffer_some {α : Type} (result : α) : inBuffer (some result) = .ok result := rfl

/-- A size below the range of `int` is the `int` itself. -/
theorem sizeToInt_small {size : Nat} (small : size < 2 ^ 31) : sizeToInt size = size := by
  have inside : (size : Int) % (2 ^ 32 : Nat) = size := by
    rw [← Int.natCast_emod, Nat.mod_eq_of_lt (Nat.lt_trans small (by decide))]
  unfold sizeToInt Int.bmod
  simp only [inside]
  exact if_pos (by omega)

/-- The last index of a short line. -/
theorem lastIndex_small {length : Nat} (small : length < 2 ^ 31) :
    lastIndex length = .ok ((length : Int) - 1) := by
  rw [lastIndex, sizeToInt_small small, if_neg (by omega)]

/-- A run of the parser up to the fields. -/
theorem parseConfLine_of_scans {s buf : Bytes} {i : Int} {p newLen : Nat}
    (index : lastIndex s.length = .ok i)
    (cleared : clearBack blank (s ++ [0]) (i + 1).toNat = some buf)
    (skipped : scan (fun c => c != 0 && blank c) buf = some p)
    (measured : strlen (buf.drop p) = some newLen) :
    parseConfLine s = parseConfFields buf p (sizeToInt newLen) := by
  rw [parseConfLine, index]
  simp only [bind, Except.bind, cleared, inBuffer_some, skipped, measured]

variable {front core back : Bytes}

/-- Blanks are not terminators. -/
theorem Blanks.text (blanks : Blanks front) : (0 : UInt8) ∉ front := by
  intro inside
  have wrong := blanks 0 inside
  contradiction

/-- The first two loops leave the line between its blanks, with zeros behind it. -/
theorem parseConfLine_trimmed (small : (front ++ core ++ back).length < 2 ^ 31)
    (blanks : Blanks front) (trimmed : Trimmed core) (blanksBack : Blanks back)
    (solid : core = [] → front = []) :
    parseConfLine (front ++ core ++ back) =
      parseConfFields (front ++ (core ++ 0 :: List.replicate back.length 0)) front.length
        core.length := by
  have start : ((((front ++ core ++ back).length : Nat) : Int) - 1 + 1).toNat =
      (front ++ core ++ back).length := by
    rw [Int.sub_add_cancel, Int.toNat_natCast]
  have zeros : front ++ core ++ List.replicate back.length 0 ++ [0] =
      front ++ (core ++ 0 :: List.replicate back.length 0) := by
    have turned : List.replicate back.length (0 : UInt8) ++ [0] =
        0 :: List.replicate back.length 0 := by
      rw [← List.replicate_succ', List.replicate_succ]
    rw [List.append_assoc, turned, List.append_assoc]
  have ends : ∀ last ∈ (front ++ core).getLast?, blank last = false := by
    intro last inside
    by_cases empty : core = []
    · rw [empty, solid empty] at inside
      contradiction
    · rw [List.getLast?_append_of_ne_nil _ empty] at inside
      exact trimmed.last last inside
  have cleared : clearBack blank (front ++ core ++ back ++ [0]) (front ++ core ++ back).length =
      some (front ++ core ++ List.replicate back.length 0 ++ [0]) :=
    clearBack_append blanksBack ends
  have skipped : scan (fun c => c != 0 && blank c)
      (front ++ (core ++ 0 :: List.replicate back.length 0)) = some front.length := by
    have goes : ∀ c ∈ front, (c != 0 && blank c) = true := fun c inside => by
      rw [ne_zero_of_notMem blanks.text c inside, blanks c inside]
      rfl
    cases core with
    | nil => exact scan_append goes rfl
    | cons c more =>
      have stops : (c != 0 && blank c) = false := by
        rw [trimmed.first c rfl, Bool.and_false]
      exact scan_append goes stops
  have length : strlen (core ++ 0 :: List.replicate back.length 0) = some core.length :=
    strlen_append trimmed.text
  have short : core.length < 2 ^ 31 := by
    rw [List.length_append, List.length_append] at small
    omega
  rw [zeros, ← start] at cleared
  rw [← sizeToInt_small short]
  exact parseConfLine_of_scans (lastIndex_small small) cleared skipped (by rwa [List.drop_left])

variable {rest : Bytes}

/-- An empty text has no fields. -/
theorem parseConfFields_zero (buf : Bytes) (p : Nat) : parseConfFields buf p 0 = .ok [] :=
  if_pos rfl

/-- What the fields of a text are is read off from its first byte. -/
theorem parseConfFields_cons {first : UInt8} {more : Bytes}
    (text : (0 : UInt8) ∉ first :: more) (textFront : (0 : UInt8) ∉ front) :
    parseConfFields (front ++ (first :: more ++ 0 :: rest)) front.length (first :: more).length =
      if first = 0x23 then .ok [] else
      if first ≠ 0x2d then .error (.exit (front ++ first :: more)) else do
        let i ← inBuffer (scanWithin (fun c => !blank c) (first :: more).length
          (first :: more ++ 0 :: rest))
        if (i : Int) = (first :: more).length then .ok [first :: more] else
        let j := i + (← inBuffer (scan blank ((first :: more ++ 0 :: rest).drop i)))
        if 2 ^ 31 ≤ j then .error .overflow else
        let cut := (first :: more ++ 0 :: rest).set i 0
        return [← inBuffer (cString cut), ← inBuffer (cString (cut.drop j))] := by
  have nonempty : ((first :: more).length : Int) ≠ 0 := by
    rw [List.length_cons]
    omega
  have head : (front ++ (first :: more ++ 0 :: rest))[front.length]? = some first := by simp
  have whole : cString (front ++ (first :: more ++ 0 :: rest)) = some (front ++ first :: more) := by
    rw [← List.append_assoc]
    exact cString_append (by simp [textFront, text])
  have written : ∀ i, (front ++ (first :: more ++ 0 :: rest)).set (front.length + i) 0 =
      front ++ (first :: more ++ 0 :: rest).set i 0 := fun i => by
    rw [List.set_append_right _ _ (by omega), Nat.add_sub_cancel_left]
  have alone : cString (first :: more ++ 0 :: rest) = some (first :: more) := cString_append text
  rw [parseConfFields, if_neg nonempty]
  simp only [bind, Except.bind, inBuffer_some, head, whole, Int.toNat_natCast, written,
    List.drop_left, List.drop_length_add_append, alone, pure, Except.pure, throw, throwThe,
    MonadExceptOf.throw]

/-- A comment has no fields. -/
theorem parseConfFields_comment {more : Bytes} (text : (0 : UInt8) ∉ (0x23 : UInt8) :: more)
    (textFront : (0 : UInt8) ∉ front) :
    parseConfFields (front ++ ((0x23 : UInt8) :: more ++ 0 :: rest)) front.length
      ((0x23 : UInt8) :: more).length = .ok [] := by
  rw [parseConfFields_cons text textFront, if_pos rfl]

/-- A text that begins otherwise stops the program. -/
theorem parseConfFields_exit {first : UInt8} {more : Bytes} (text : (0 : UInt8) ∉ first :: more)
    (textFront : (0 : UInt8) ∉ front) (comment : first ≠ 0x23) (dash : first ≠ 0x2d) :
    parseConfFields (front ++ (first :: more ++ 0 :: rest)) front.length (first :: more).length =
      .error (.exit (front ++ first :: more)) := by
  rw [parseConfFields_cons text textFront, if_neg comment, if_pos dash]

/-- An option without blanks is the only field. -/
theorem parseConfFields_option {more : Bytes} (text : (0 : UInt8) ∉ (0x2d : UInt8) :: more)
    (textFront : (0 : UInt8) ∉ front) (solid : ∀ c ∈ (0x2d : UInt8) :: more, blank c = false) :
    parseConfFields (front ++ ((0x2d : UInt8) :: more ++ 0 :: rest)) front.length
      ((0x2d : UInt8) :: more).length = .ok [0x2d :: more] := by
  have goes : ∀ c ∈ (0x2d : UInt8) :: more, (!blank c) = true := fun c inside => by
    rw [solid c inside]
    rfl
  rw [parseConfFields_cons text textFront, if_neg (by decide), if_neg (by decide),
    scanWithin_all goes]
  simp only [bind, Except.bind, inBuffer_some, if_true]

/-- An option, blanks and a value are two fields. -/
theorem parseConfFields_pair {more between tail : Bytes} {gap first : UInt8}
    (text : (0 : UInt8) ∉ (0x2d : UInt8) :: (more ++ (gap :: between ++ first :: tail)))
    (textFront : (0 : UInt8) ∉ front) (solid : ∀ c ∈ (0x2d : UInt8) :: more, blank c = false)
    (blanks : Blanks (gap :: between)) (starts : blank first = false)
    (small : ((0x2d : UInt8) :: (more ++ (gap :: between ++ first :: tail))).length < 2 ^ 31) :
    parseConfFields
        (front ++ ((0x2d : UInt8) :: (more ++ (gap :: between ++ first :: tail)) ++ 0 :: rest))
        front.length ((0x2d : UInt8) :: (more ++ (gap :: between ++ first :: tail))).length =
      .ok [0x2d :: more, first :: tail] := by
  let option := (0x2d : UInt8) :: more
  let core := (0x2d : UInt8) :: (more ++ (gap :: between ++ first :: tail))
  have parts : core ++ 0 :: rest = option ++ (gap :: between ++ (first :: tail ++ 0 :: rest)) := by
    simp [core, option]
  have goes : ∀ c ∈ option, (!blank c) = true := fun c inside => by
    rw [solid c inside]
    rfl
  have stops : (!blank gap) = false := by
    rw [blanks gap List.mem_cons_self]
    rfl
  have apart : (0 : UInt8) ∉ option ∧ (0 : UInt8) ∉ first :: tail := by
    constructor
    · exact fun inside => text (by simp [option] at inside ⊢; tauto)
    · exact fun inside => text (by simp at inside ⊢; tauto)
  have length : core.length =
      option.length + ((gap :: between).length + (first :: tail).length) := by
    simp [core, option]
    omega
  have gapLength : 0 < (gap :: between).length := Nat.succ_pos _
  have found : scanWithin (fun c => !blank c) core.length (core ++ 0 :: rest) =
      some option.length := by
    rw [parts]
    exact scanWithin_append (by omega) goes stops
  have skipped : scan blank ((core ++ 0 :: rest).drop option.length) =
      some (gap :: between).length := by
    rw [parts, List.drop_left]
    exact scan_append blanks starts
  have cut : (core ++ 0 :: rest).set option.length 0 =
      option ++ 0 :: (between ++ (first :: tail ++ 0 :: rest)) := by
    rw [parts, List.set_append_right _ _ (Nat.le_refl _), Nat.sub_self]
    rfl
  have left : (option ++ 0 :: (between ++ (first :: tail ++ 0 :: rest))).drop
      (option.length + (gap :: between).length) = first :: tail ++ 0 :: rest := by
    rw [List.drop_length_add_append, List.length_cons, List.drop_succ_cons, List.drop_left]
  have whole : ¬((option.length : Int) = core.length) := by omega
  have inRange : ¬2 ^ 31 ≤ option.length + (gap :: between).length := by
    have bound : core.length < 2 ^ 31 := small
    omega
  refine (parseConfFields_cons text textFront).trans ?_
  rw [if_neg (by decide), if_neg (by decide)]
  change (do
    let i ← inBuffer (scanWithin (fun c => !blank c) core.length (core ++ 0 :: rest))
    if (i : Int) = core.length then .ok [core] else
    let j := i + (← inBuffer (scan blank ((core ++ 0 :: rest).drop i)))
    if 2 ^ 31 ≤ j then .error .overflow else
    let cut := (core ++ 0 :: rest).set i 0
    return [← inBuffer (cString cut), ← inBuffer (cString (cut.drop j))]) = _
  rw [found]
  simp only [bind, Except.bind, inBuffer_some, if_neg whole, skipped, if_neg inRange, cut, left,
    cString_append apart.1, cString_append apart.2]
  rfl

/-! ## Lines that an `int` can measure -/

/-- A text that is cut off its blanks at the end keeps its first byte. -/
theorem exists_trimmed_cons {first : UInt8} {more : Bytes} (text : (0 : UInt8) ∉ first :: more)
    (solid : blank first = false) :
    ∃ kept back, first :: more = first :: kept ++ back ∧ Trimmed (first :: kept) ∧ Blanks back := by
  obtain ⟨core, back, parts, blanks, last⟩ := exists_span_back blank (first :: more)
  cases core with
  | nil =>
    -- All bytes would be blanks, the first one too.
    have wrong := blanks first (by rw [← List.nil_append back, ← parts]; exact List.mem_cons_self)
    rw [solid] at wrong
    exact absurd wrong Bool.false_ne_true
  | cons byte kept =>
    have same := (List.cons.inj parts).1
    rw [← same] at parts last
    refine ⟨kept, back, parts, ⟨fun inside => text ?_, fun c is => ?_, last⟩, blanks⟩
    · rw [parts]
      exact List.mem_append_left back inside
    · rw [List.head?_cons, Option.mem_some_iff] at is
      rw [← is, solid]

/-- A line that begins with `-` behind its blanks is an option alone or an option and a value. -/
theorem exists_fields {more : Bytes} (trimmed : Trimmed ((0x2d : UInt8) :: more)) :
    (∀ c ∈ (0x2d : UInt8) :: more, blank c = false) ∨
      ∃ kept between tail gap first, more = kept ++ (gap :: between ++ first :: tail) ∧
        (∀ c ∈ (0x2d : UInt8) :: kept, blank c = false) ∧ Blanks (gap :: between) ∧
        blank first = false := by
  obtain ⟨kept, rest, parts, solid, stops⟩ := exists_span (fun c => !blank c) more
  have dash : ∀ c ∈ (0x2d : UInt8) :: kept, blank c = false := by
    intro c inside
    obtain rfl | inside := List.mem_cons.mp inside
    · rfl
    · simpa using solid c inside
  cases rest with
  | nil =>
    left
    rwa [parts, List.append_nil]
  | cons gap rest =>
    right
    have isBlank : blank gap = true := by simpa using stops gap rfl
    obtain ⟨between, value, cut, blanks, starts⟩ := exists_span blank rest
    cases value with
    | nil =>
      -- The last byte of the line would be a blank.
      have blanksAll : Blanks (gap :: between) := List.forall_mem_cons.mpr ⟨isBlank, blanks⟩
      have nonempty : gap :: between ≠ [] := List.cons_ne_nil gap between
      have last := trimmed.last ((gap :: between).getLast nonempty) (by
        rw [parts, cut, List.append_nil, ← List.cons_append,
          List.getLast?_append_of_ne_nil _ nonempty]
        exact List.getLast?_eq_some_getLast nonempty)
      rw [blanksAll _ (List.getLast_mem nonempty)] at last
      exact absurd last.symm Bool.false_ne_true
    | cons first tail =>
      exact ⟨kept, between, tail, gap, first, by rw [parts, cut]; rfl, dash,
        List.forall_mem_cons.mpr ⟨isBlank, blanks⟩, starts first rfl⟩

variable {line : Bytes}

/-- A blank line has no fields. -/
theorem parseConfLine_blank (small : line.length < 2 ^ 31) (blanks : Blanks line) :
    parseConfLine line = .ok [] := by
  have trimmed : Trimmed [] := ⟨List.not_mem_nil, nofun, nofun⟩
  have shape : parseConfLine ([] ++ [] ++ line) =
      parseConfFields ([] ++ ([] ++ 0 :: List.replicate line.length 0)) 0 0 :=
    parseConfLine_trimmed (by simpa using small)
      (fun c inside => absurd inside List.not_mem_nil) trimmed blanks (fun _ => rfl)
  rw [List.append_nil, List.nil_append] at shape
  rw [shape]
  exact parseConfFields_zero _ _

/-- A comment has no fields. -/
theorem parseConfLine_comment {more : Bytes} (text : (0 : UInt8) ∉ front ++ (0x23 : UInt8) :: more)
    (small : (front ++ (0x23 : UInt8) :: more).length < 2 ^ 31) (blanks : Blanks front) :
    parseConfLine (front ++ 0x23 :: more) = .ok [] := by
  have own : (0 : UInt8) ∉ (0x23 : UInt8) :: more := fun inside =>
    text (List.mem_append_right front inside)
  obtain ⟨kept, back, parts, trimmed, blanksBack⟩ := exists_trimmed_cons own rfl
  rw [parts, ← List.append_assoc] at small ⊢
  rw [parseConfLine_trimmed small blanks trimmed blanksBack (fun empty => nomatch empty),
    parseConfFields_comment trimmed.text blanks.text]

/-- An option alone is the only field. -/
theorem parseConfLine_option {option : Bytes} (text : (0 : UInt8) ∉ front ++ option ++ back)
    (small : (front ++ option ++ back).length < 2 ^ 31) (blanks : Blanks front)
    (isOption : ConfOption option) (blanksBack : Blanks back) :
    parseConfLine (front ++ option ++ back) = .ok [option] := by
  obtain ⟨more, rfl⟩ := List.head?_eq_some_iff.mp isOption.dash
  have own : (0 : UInt8) ∉ (0x2d : UInt8) :: more := fun inside =>
    text (List.mem_append_left back (List.mem_append_right front inside))
  have trimmed : Trimmed ((0x2d : UInt8) :: more) :=
    ⟨own, fun c is => isOption.solid c (List.mem_of_mem_head? is),
      fun c is => isOption.solid c (List.mem_of_mem_getLast? is)⟩
  rw [parseConfLine_trimmed small blanks trimmed blanksBack (fun empty => nomatch empty),
    parseConfFields_option own blanks.text isOption.solid]

/-- An option and its value are the two fields. -/
theorem parseConfLine_pair {option middle value : Bytes}
    (text : (0 : UInt8) ∉ front ++ option ++ middle ++ value ++ back)
    (small : (front ++ option ++ middle ++ value ++ back).length < 2 ^ 31) (blanks : Blanks front)
    (isOption : ConfOption option) (gap : Blanks middle) (apart : middle ≠ [])
    (isValue : ConfValue value) (blanksBack : Blanks back) :
    parseConfLine (front ++ option ++ middle ++ value ++ back) = .ok [option, value] := by
  obtain ⟨more, rfl⟩ := List.head?_eq_some_iff.mp isOption.dash
  obtain ⟨gapFirst, between, rfl⟩ := List.exists_cons_of_ne_nil apart
  obtain ⟨first, begins, starts⟩ := isValue.first
  obtain ⟨tail, rfl⟩ := List.head?_eq_some_iff.mp begins
  have parts : front ++ (0x2d : UInt8) :: more ++ gapFirst :: between ++ first :: tail ++ back =
      front ++ (0x2d : UInt8) :: (more ++ (gapFirst :: between ++ first :: tail)) ++ back := by
    simp
  rw [parts] at text small ⊢
  have own : (0 : UInt8) ∉ (0x2d : UInt8) :: (more ++ (gapFirst :: between ++ first :: tail)) :=
    fun inside => text (List.mem_append_left back (List.mem_append_right front inside))
  have trimmed : Trimmed ((0x2d : UInt8) :: (more ++ (gapFirst :: between ++ first :: tail))) := by
    refine ⟨own, fun c is => ?_, fun c is => isValue.last c ?_⟩
    · rw [List.head?_cons, Option.mem_some_iff] at is
      exact isOption.solid c (by rw [is]; exact List.mem_cons_self)
    · rw [← List.cons_append, ← List.append_assoc,
        List.getLast?_append_of_ne_nil _ (List.cons_ne_nil first tail)] at is
      exact is
  have short :
      ((0x2d : UInt8) :: (more ++ (gapFirst :: between ++ first :: tail))).length < 2 ^ 31 := by
    rw [List.length_append, List.length_append] at small
    omega
  rw [parseConfLine_trimmed small blanks trimmed blanksBack (fun empty => nomatch empty),
    parseConfFields_pair own blanks.text isOption.solid gap starts short]

/-- No scan of a line leaves its buffer. -/
theorem parseConfLine_inside (text : (0 : UInt8) ∉ line) (small : line.length < 2 ^ 31) :
    parseConfLine line ≠ .error .outside := by
  obtain ⟨front, rest, rfl, blanks, solid⟩ := exists_span blank line
  cases rest with
  | nil =>
    rw [List.append_nil] at small ⊢
    rw [parseConfLine_blank small blanks]
    nofun
  | cons first more =>
    have own : (0 : UInt8) ∉ first :: more :=
      fun inside => text (List.mem_append_right front inside)
    have noZero : (0 : UInt8) ∉ front := Blanks.text blanks
    obtain ⟨kept, back, parts, trimmed, blanksBack⟩ := exists_trimmed_cons own (solid first rfl)
    rw [parts, ← List.append_assoc] at small ⊢
    rw [parseConfLine_trimmed small blanks trimmed blanksBack (fun empty => nomatch empty)]
    by_cases comment : first = 0x23
    · subst comment
      rw [parseConfFields_comment trimmed.text noZero]
      nofun
    · by_cases dash : first = 0x2d
      · subst dash
        have short : ((0x2d : UInt8) :: kept).length < 2 ^ 31 := by
          rw [List.length_append, List.length_append] at small
          omega
        obtain alone | ⟨option, between, tail, gap, value, rfl, alone, gaps, starts⟩ :=
          exists_fields trimmed
        · rw [parseConfFields_option trimmed.text noZero alone]
          nofun
        · rw [parseConfFields_pair trimmed.text noZero alone gaps starts short]
          nofun
      · rw [parseConfFields_exit trimmed.text noZero comment dash]
        nofun

/-- The parser does what it has to with a line that an `int` can measure. -/
theorem confLineLaw_of_short (text : (0 : UInt8) ∉ line) (small : line.length < 2 ^ 31) :
    ConfLineLaw line where
  pair := by
    rintro front option middle value back rfl
    exact parseConfLine_pair text small
  option := by
    rintro front option back rfl
    exact parseConfLine_option text small
  blank := parseConfLine_blank small
  comment := by
    rintro front more rfl
    exact parseConfLine_comment text small
  inside := parseConfLine_inside text small

/-- The blanks of `" \t-a\t b "` are not part of its fields. -/
example : parseConfLine [0x20, 0x09, 0x2d, 0x61, 0x09, 0x20, 0x62, 0x20] =
    .ok [[0x2d, 0x61], [0x62]] := by decide

/-! ## Longer lines -/

/-- An option with a blank behind it, of a given length. -/
def longLine (length : Nat) : Bytes := 0x2d :: List.replicate (length - 2) 0x61 ++ [0x20]

/-- The option of this line. -/
def longOption (length : Nat) : Bytes := 0x2d :: List.replicate (length - 2) 0x61

/-- An `int` is below its bound. -/
theorem sizeToInt_lt (size : Nat) : sizeToInt size < 2 ^ 31 := by
  have bound := Int.bmod_lt (x := size) (m := 2 ^ 32) (Nat.two_pow_pos 32)
  exact bound

variable {length : Nat}

/-- The bytes of the option are neither blanks nor zeros. -/
theorem longOption_byte {c : UInt8} (inside : c ∈ longOption length) : c = 0x2d ∨ c = 0x61 := by
  obtain rfl | inside := List.mem_cons.mp inside
  · exact .inl rfl
  · exact .inr (List.eq_of_mem_replicate inside)

/-- The option is one. -/
theorem longOption_isOption : ConfOption (longOption length) where
  dash := rfl
  solid c inside := by
    obtain rfl | rfl := longOption_byte inside
    · rfl
    · rfl

/-- The line has no zeros. -/
theorem longLine_text : (0 : UInt8) ∉ longLine length := by
  intro inside
  obtain inside | inside := List.mem_append.mp inside
  · obtain wrong | wrong := longOption_byte inside
    · contradiction
    · contradiction
  · have wrong := List.mem_singleton.mp inside
    contradiction

/-- The length of the line. -/
theorem longLine_length (long : 2 ≤ length) : (longLine length).length = length := by
  simp [longLine]
  omega

/-- The loop from a place inside the option clears nothing. -/
theorem clearBack_longLine (place : Nat) (inside : place < length) :
    clearBack blank (longLine length ++ [0]) place = some (longLine length ++ [0]) := by
  cases place with
  | zero => rfl
  | succ place =>
    have short : place < (longOption length).length := by
      simp [longOption]
      omega
    have reads : (longLine length ++ [0])[place]? = some (longOption length)[place] := by
      have parts : longLine length ++ [0] = longOption length ++ [0x20, 0] := by
        simp [longLine, longOption]
      rw [parts, List.getElem?_append_left short, List.getElem?_eq_getElem short]
    have solid := longOption_isOption.solid _ (List.getElem_mem short)
    rw [clearBack, reads]
    simp only [solid, Bool.false_eq_true, if_false]

/-- Without an overflow the parser goes on with the whole line and a wrong length. -/
theorem parseConfLine_longLine (long : 2 ^ 31 ≤ length) (defined : sizeToInt length ≠ -2 ^ 31) :
    parseConfLine (longLine length) =
      parseConfFields (longLine length ++ [0]) 0 (sizeToInt length) := by
  have bound := sizeToInt_lt length
  have size : (longLine length).length = length := longLine_length (by omega)
  have index : lastIndex (longLine length).length = .ok (sizeToInt length - 1) := by
    rw [lastIndex, size, if_neg defined]
  have start : (sizeToInt length - 1 + 1).toNat < length := by omega
  have skipped : scan (fun c => c != 0 && blank c) (longLine length ++ [0]) = some 0 :=
    scan_append (fun _ inside => absurd inside List.not_mem_nil) rfl
  have measured : strlen ((longLine length ++ [0]).drop 0) = some length := by
    rw [List.drop_zero, strlen_append longLine_text, size]
  exact parseConfLine_of_scans index (clearBack_longLine _ start) skipped measured

/-- With a negative length the parser cuts the line at its first byte. -/
theorem parseConfFields_negative {newLen : Int} (negative : newLen < 0) :
    parseConfFields (longLine length ++ [0]) 0 newLen = .ok [[], []] := by
  have none : newLen.toNat = 0 := Int.toNat_of_nonpos (Int.le_of_lt negative)
  have apart : ¬((0 : Nat) : Int) = newLen := by omega
  have head : (longLine length ++ [0])[0]? = some 0x2d := rfl
  have skipped : scan blank (longLine length ++ [0]) = some 0 :=
    scan_append (fun _ inside => absurd inside List.not_mem_nil) rfl
  have cut : cString ((longLine length ++ [0]).set 0 0) = some [] :=
    cString_append List.not_mem_nil
  rw [parseConfFields, if_neg (by omega)]
  simp only [bind, Except.bind, head, inBuffer_some, none, scanWithin, List.drop_zero,
    if_neg apart, Nat.zero_add, skipped, cut]
  rfl

/-- With a length that is too small the parser takes the line for an option. -/
theorem parseConfFields_small {newLen : Nat} (positive : 0 < newLen) (small : newLen < length) :
    parseConfFields (longLine length ++ [0]) 0 newLen = .ok [longLine length] := by
  have head : (longLine length ++ [0])[0]? = some 0x2d := rfl
  have whole : cString (longLine length ++ [0]) = some (longLine length) :=
    cString_append longLine_text
  have scanned : scanWithin (fun c => !blank c) newLen (longLine length ++ [0]) = some newLen := by
    have taken : ((longLine length).take newLen).length = newLen := by
      rw [List.length_take, longLine_length (by omega)]
      omega
    have goes : ∀ c ∈ (longLine length).take newLen, (!blank c) = true := by
      intro c inside
      have short : newLen ≤ (longOption length).length := by
        simp [longOption]
        omega
      have first : (longLine length).take newLen = (longOption length).take newLen :=
        List.take_append_of_le_length short
      rw [first] at inside
      rw [longOption_isOption.solid c (List.mem_of_mem_take inside)]
      rfl
    have scanned : scanWithin (fun c => !blank c) ((longLine length).take newLen).length
        ((longLine length).take newLen ++ ((longLine length).drop newLen ++ [0])) =
          some ((longLine length).take newLen).length := scanWithin_all goes
    rwa [← List.append_assoc, List.take_append_drop, taken] at scanned
  rw [parseConfFields, if_neg (by omega)]
  simp only [bind, Except.bind, head, inBuffer_some, Int.toNat_natCast, List.drop_zero, scanned,
    if_true, whole]
  rfl

/-- The parser does not find the option of a long line. -/
theorem parseConfLine_long (long : 2 ^ 31 ≤ length) :
    parseConfLine (longLine length) ≠ .ok [longOption length] := by
  have bound := sizeToInt_lt length
  by_cases defined : sizeToInt length = -2 ^ 31
  · have size : (longLine length).length = length := longLine_length (by omega)
    rw [parseConfLine, lastIndex, size, if_pos defined]
    nofun
  rw [parseConfLine_longLine long defined]
  obtain negative | zero | positive := Int.lt_trichotomy (sizeToInt length) 0
  · rw [parseConfFields_negative negative]
    nofun
  · rw [zero, parseConfFields_zero]
    nofun
  · obtain ⟨newLen, same⟩ := Int.eq_ofNat_of_zero_le (Int.le_of_lt positive)
    rw [same, parseConfFields_small (by omega) (by omega)]
    intro wrong
    have lengths := congrArg List.length (List.cons.inj (Except.ok.inj wrong)).1
    simp [longLine, longOption] at lengths

/-- A long line with an option and a blank breaks the law of the parser. -/
theorem not_confLineLaw_longLine (long : 2 ^ 31 ≤ length) : ¬ConfLineLaw (longLine length) := by
  intro law
  have none : Blanks [] := fun _ inside => absurd inside List.not_mem_nil
  have space : Blanks [0x20] := fun c inside => by
    rw [List.mem_singleton.mp inside]
    rfl
  exact parseConfLine_long long
    (law.option [] (longOption length) [0x20] rfl none longOption_isOption space)

/-- The parser does what it has to with every line of a length exactly when the length is an
`int`. -/
theorem confLineLaw_iff_length (length : Nat) :
    (∀ line : Bytes, (0 : UInt8) ∉ line → line.length = length → ConfLineLaw line) ↔
      length < 2 ^ 31 := by
  constructor
  · intro law
    by_contra long
    have long : 2 ^ 31 ≤ length := Nat.le_of_not_lt long
    exact not_confLineLaw_longLine long
      (law (longLine length) longLine_text (longLine_length (by omega)))
  · rintro small line text rfl
    exact confLineLaw_of_short text small

/-- A line of two gibibytes and one byte with an option and a blank: its length is negative as an
`int`, and the parser gives two empty fields. -/
theorem parseConfLine_negative_length :
    (0 : UInt8) ∉ longLine (2 ^ 31 + 1) ∧ (longLine (2 ^ 31 + 1)).length = 2 ^ 31 + 1 ∧
      parseConfLine (longLine (2 ^ 31 + 1)) = .ok [[], []] ∧
      ¬ConfLineLaw (longLine (2 ^ 31 + 1)) := by
  have length : sizeToInt (2 ^ 31 + 1) = -2 ^ 31 + 1 := by decide
  refine ⟨longLine_text, longLine_length (by omega), ?_, not_confLineLaw_longLine (by omega)⟩
  rw [parseConfLine_longLine (by omega) (by rw [length]; decide)]
  exact parseConfFields_negative (by rw [length]; decide)

end Udp2raw
