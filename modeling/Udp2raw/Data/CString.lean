import Mathlib.Data.List.DropRight
import Mathlib.Data.UInt

/-!
# Scans of a terminated string

A C string is a buffer of bytes up to the first zero. The loops over it read one byte after
the other; each of them says here how far it came, or that it left the buffer. What they find
is read off from how the buffer is composed.
-/
namespace Udp2raw

/-- The steps of `while (go(*p)) p++`, or nothing when the loop leaves the buffer. -/
def scan (go : UInt8 → Bool) : List UInt8 → Option Nat
  | [] => none
  | byte :: rest => if go byte then (scan go rest).map (· + 1) else some 0

/-- The same loop when it also ends after a number of steps. -/
def scanWithin (go : UInt8 → Bool) : Nat → List UInt8 → Option Nat
  | 0, _ => some 0
  | _ + 1, [] => none
  | limit + 1, byte :: rest =>
    if go byte then (scanWithin go limit rest).map (· + 1) else some 0

/-- `strlen`. -/
def strlen (buf : List UInt8) : Option Nat := scan (· != 0) buf

/-- The string at the start of a buffer, as `std::string` copies it. -/
def cString (buf : List UInt8) : Option (List UInt8) := (strlen buf).map buf.take

/-- A loop backwards over a buffer, from the byte before a place on, that clears the bytes it
goes over. -/
def clearBack (go : UInt8 → Bool) (buf : List UInt8) : Nat → Option (List UInt8)
  | 0 => some buf
  | place + 1 =>
    match buf[place]? with
    | none => none
    | some byte => if go byte then clearBack go (buf.set place 0) place else some buf

variable {go : UInt8 → Bool} {front rest : List UInt8} {stop : UInt8}

/-- A scan goes over the bytes that it looks for and stops at the first other one. -/
theorem scan_append (goes : ∀ byte ∈ front, go byte = true) (stops : go stop = false) :
    scan go (front ++ stop :: rest) = some front.length := by
  induction front with
  | nil => rw [List.nil_append, scan, stops]; rfl
  | cons byte front ih =>
    rw [List.forall_mem_cons] at goes
    rw [List.cons_append, scan, goes.1, if_pos rfl, ih goes.2]
    rfl

/-- A scan with enough steps left finds the same. -/
theorem scanWithin_append {limit : Nat} (enough : front.length < limit)
    (goes : ∀ byte ∈ front, go byte = true) (stops : go stop = false) :
    scanWithin go limit (front ++ stop :: rest) = some front.length := by
  induction front generalizing limit with
  | nil =>
    cases limit with
    | zero => contradiction
    | succ limit => rw [List.nil_append, scanWithin, stops]; rfl
  | cons byte front ih =>
    rw [List.forall_mem_cons] at goes
    cases limit with
    | zero => contradiction
    | succ limit =>
      rw [List.cons_append, scanWithin, goes.1, if_pos rfl,
        ih (Nat.lt_of_succ_lt_succ enough) goes.2]
      rfl

/-- A scan that only meets what it looks for uses up its steps. -/
theorem scanWithin_all (goes : ∀ byte ∈ front, go byte = true) :
    scanWithin go front.length (front ++ rest) = some front.length := by
  induction front with
  | nil => rw [List.length_nil, scanWithin]
  | cons byte front ih =>
    rw [List.forall_mem_cons] at goes
    rw [List.length_cons, List.cons_append, scanWithin, goes.1, if_pos rfl, ih goes.2]
    rfl

/-- No byte of a text ends it. -/
theorem ne_zero_of_notMem (text : (0 : UInt8) ∉ front) :
    ∀ byte ∈ front, (byte != 0) = true := by
  intro byte inside
  rw [bne_iff_ne]
  rintro rfl
  exact text inside

/-- The length of a text is where its terminator stands. -/
theorem strlen_append (text : (0 : UInt8) ∉ front) :
    strlen (front ++ 0 :: rest) = some front.length :=
  scan_append (ne_zero_of_notMem text) rfl

/-- A text is read back from the buffer. -/
theorem cString_append (text : (0 : UInt8) ∉ front) :
    cString (front ++ 0 :: rest) = some front := by
  rw [cString, strlen_append text, Option.map_some, List.take_left]

/-- The loop backwards goes over the bytes that it looks for and stops at the next one. -/
theorem clearBack_append {back : List UInt8} (goes : ∀ byte ∈ back, go byte = true)
    (stops : ∀ last ∈ front.getLast?, go last = false) :
    clearBack go (front ++ back ++ rest) (front ++ back).length =
      some (front ++ List.replicate back.length 0 ++ rest) := by
  induction back using List.reverseRecOn generalizing rest with
  | nil =>
    rw [List.append_nil, List.length_nil, List.replicate_zero, List.append_nil]
    cases front using List.reverseRecOn with
    | nil => rw [List.length_nil, clearBack]
    | append_singleton front last =>
      have stopped : go last = false := stops last (by simp)
      rw [List.length_append, List.length_singleton, clearBack]
      simp [stopped]
  | append_singleton back byte ih =>
    have one : go byte = true := goes byte (by simp)
    have others : ∀ byte ∈ back, go byte = true := fun byte inside => goes byte (by simp [inside])
    have reads : (front ++ (back ++ [byte]) ++ rest)[(front ++ back).length]? = some byte := by
      simp
    have writes : (front ++ (back ++ [byte]) ++ rest).set (front ++ back).length 0 =
        front ++ back ++ 0 :: rest := by
      simp
    have length : (front ++ (back ++ [byte])).length = (front ++ back).length + 1 := by
      simp [Nat.add_assoc]
    have zeros : front ++ List.replicate back.length 0 ++ 0 :: rest =
        front ++ List.replicate (back ++ [byte]).length 0 ++ rest := by
      simp [List.replicate_succ']
    rw [length, clearBack, reads]
    dsimp only
    rw [if_pos one, writes, ih others, zeros]

/-- Every text is cut at its first byte that a scan does not go over. -/
theorem exists_span (go : UInt8 → Bool) (bytes : List UInt8) :
    ∃ front rest, bytes = front ++ rest ∧ (∀ byte ∈ front, go byte = true) ∧
      ∀ byte ∈ rest.head?, go byte = false := by
  refine ⟨bytes.takeWhile go, bytes.dropWhile go, List.takeWhile_append_dropWhile.symm,
    fun byte inside => List.mem_takeWhile_imp inside, fun byte inside => ?_⟩
  have stopped := List.head?_dropWhile_not go bytes
  rw [Option.mem_def.mp inside] at stopped
  exact stopped

/-- The same from the end. -/
theorem exists_span_back (go : UInt8 → Bool) (bytes : List UInt8) :
    ∃ front back, bytes = front ++ back ∧ (∀ byte ∈ back, go byte = true) ∧
      ∀ byte ∈ front.getLast?, go byte = false := by
  obtain ⟨back, front, parts, goes, stops⟩ := exists_span go bytes.reverse
  refine ⟨front.reverse, back.reverse, ?_,
    fun byte inside => goes byte (List.mem_reverse.mp inside),
    fun byte inside => stops byte ?_⟩
  · rw [← List.reverse_append, ← parts, List.reverse_reverse]
  · rwa [List.getLast?_reverse] at inside

end Udp2raw
