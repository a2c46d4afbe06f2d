import Udp2raw.Network.Receive
import Mathlib.Logic.Relation

/-!
# The options of a TCP header

What `parse_tcp_option` finds, told by the walk over the options: one leads to the next until the
end, the end-of-list kind or a malformed option. A second version of the parser can only read the
bytes of the region; it finds the same.
-/
namespace Udp2raw

variable {v : IpVersion}

/-- A timestamp option lies completely before the end. -/
structure TimestampAt (capture : Capture) (optionEnd ptr : Nat) : Prop where
  /-- Its kind. -/
  kind : capture.read ptr = 8
  /-- Its length. -/
  length : capture.read (ptr + 1) = 10
  /-- It is complete. -/
  inside : ptr + 10 ≤ optionEnd

/-- A malformed option: its length byte is missing or below two, or it has the kind of a timestamp
but not its length, or is cut off. -/
structure MalformedAt (capture : Capture) (optionEnd ptr : Nat) : Prop where
  /-- It begins before the end. -/
  inside : ptr < optionEnd
  /-- It does not end the list. -/
  notEnd : capture.read ptr ≠ 0
  /-- It is not padding. -/
  notPadding : capture.read ptr ≠ 1
  /-- What is wrong with it. -/
  wrong : optionEnd ≤ ptr + 1 ∨ (capture.read (ptr + 1)).toNat < 2 ∨
    capture.read ptr = 8 ∧ (capture.read (ptr + 1) ≠ 10 ∨ optionEnd < ptr + 10)

/-- From an option the walk goes on to the next one. -/
inductive NextOption (capture : Capture) (optionEnd : Nat) : Nat → Nat → Prop
  /-- Padding is one byte. -/
  | padding {ptr : Nat} : ptr < optionEnd → capture.read ptr = 1 →
      NextOption capture optionEnd ptr (ptr + 1)
  /-- A timestamp option. -/
  | timestamp {ptr : Nat} : TimestampAt capture optionEnd ptr →
      NextOption capture optionEnd ptr (ptr + 10)
  /-- Any other option is as long as it says, and may overshoot the end. -/
  | other {ptr : Nat} : ptr + 1 < optionEnd → capture.read ptr ≠ 0 → capture.read ptr ≠ 1 →
      capture.read ptr ≠ 8 → 2 ≤ (capture.read (ptr + 1)).toNat →
      NextOption capture optionEnd ptr (ptr + (capture.read (ptr + 1)).toNat)

/-- The walk from an option reaches another one. -/
abbrev Walks (capture : Capture) (optionEnd : Nat) : Nat → Nat → Prop :=
  Relation.ReflTransGen (NextOption capture optionEnd)

/-- The last timestamp option that the walk reaches. -/
structure LastTimestamp (capture : Capture) (optionBegin optionEnd last : Nat) : Prop where
  /-- The walk reaches it. -/
  reached : Walks capture optionEnd optionBegin last
  /-- It is a timestamp option. -/
  timestamp : TimestampAt capture optionEnd last
  /-- No other one comes later. -/
  latest : ∀ other, Walks capture optionEnd optionBegin other →
    TimestampAt capture optionEnd other → other ≤ last

/-- The metadata with a timestamp option. -/
def PacketInfo.stamped (capture : Capture) (info : PacketInfo v) (ptr : Nat) : PacketInfo v :=
  { info with hasTs := true, ts := capture.u32 (ptr + 2), tsAck := capture.u32 (ptr + 6) }

/-- The parser reports exactly the malformed options that its walk reaches. -/
def ReportsMalformed (capture : Capture) (optionBegin optionEnd : Nat) (ret : Int) : Prop :=
  ret = 0 ∧ (∀ ptr, Walks capture optionEnd optionBegin ptr → ¬MalformedAt capture optionEnd ptr) ∨
    ret = -1 ∧ ∃ ptr, Walks capture optionEnd optionBegin ptr ∧ MalformedAt capture optionEnd ptr

/-- The parser stores the last timestamp option that its walk reaches, if there is one. -/
def StoresTimestamp (capture : Capture) (optionBegin optionEnd : Nat)
    (before after : PacketInfo v) : Prop :=
  (∃ last, LastTimestamp capture optionBegin optionEnd last ∧ after = before.stamped capture last) ∨
    (∀ ptr, Walks capture optionEnd optionBegin ptr → ¬TimestampAt capture optionEnd ptr) ∧
      after = before

section Walk

variable {capture : Capture} {optionEnd ptr next : Nat}

/-- Every option that the walk leaves begins before the end and leads forward. -/
theorem NextOption.forward (step : NextOption capture optionEnd ptr next) :
    ptr < optionEnd ∧ ptr < next := by
  cases step with
  | padding inside _ => exact ⟨inside, by omega⟩
  | timestamp stamp =>
    have inside := stamp.inside
    exact ⟨by omega, by omega⟩
  | other inside _ _ _ long => exact ⟨by omega, by omega⟩

/-- An option leads to one other option only. -/
theorem NextOption.unique {other : Nat} (one : NextOption capture optionEnd ptr next)
    (two : NextOption capture optionEnd ptr other) : next = other := by
  cases one with
  | padding _ kind =>
    cases two with
    | padding => rfl
    | timestamp stamp => exact absurd (kind.symm.trans stamp.kind) (by decide)
    | other _ _ notPadding => exact absurd kind notPadding
  | timestamp stamp =>
    cases two with
    | padding _ kind => exact absurd (kind.symm.trans stamp.kind) (by decide)
    | timestamp => rfl
    | other _ _ _ notStamp => exact absurd stamp.kind notStamp
  | other _ _ notPadding notStamp =>
    cases two with
    | padding _ kind => exact absurd kind notPadding
    | timestamp stamp => exact absurd stamp.kind notStamp
    | other => rfl

/-- The walk never goes back. -/
theorem Walks.forward (walk : Walks capture optionEnd ptr next) : ptr ≤ next := by
  induction walk with
  | refl => exact Nat.le_refl _
  | tail _ step ih => exact Nat.le_trans ih (Nat.le_of_lt step.forward.2)

/-- Behind an option that leads on, the walk reaches what the walk from the next one does. -/
theorem walks_iff_of_next (step : NextOption capture optionEnd ptr next) (place : Nat) :
    Walks capture optionEnd ptr place ↔ place = ptr ∨ Walks capture optionEnd next place := by
  constructor
  · intro walk
    obtain rfl | ⟨between, first, rest⟩ := walk.cases_head
    · exact .inl rfl
    · rw [step.unique first]
      exact .inr rest
  · rintro (rfl | rest)
    · exact .refl
    · exact .head step rest

/-- An option that does not lead on ends the walk. -/
theorem walks_iff_of_last (stops : ∀ next, ¬NextOption capture optionEnd ptr next) (place : Nat) :
    Walks capture optionEnd ptr place ↔ place = ptr := by
  constructor
  · intro walk
    obtain rfl | ⟨between, first, -⟩ := walk.cases_head
    · rfl
    · exact absurd first (stops between)
  · rintro rfl
    exact .refl

/-- A malformed option does not lead on and is no timestamp option. -/
theorem MalformedAt.stops (malformed : MalformedAt capture optionEnd ptr) :
    (∀ next, ¬NextOption capture optionEnd ptr next) ∧ ¬TimestampAt capture optionEnd ptr := by
  obtain ⟨inside, notEnd, notPadding, wrong⟩ := malformed
  have unstamped : ¬TimestampAt capture optionEnd ptr := by
    rintro ⟨kind, length, complete⟩
    rw [length] at wrong
    obtain missing | short | ⟨-, long | cut⟩ := wrong
    · omega
    · exact absurd short (by decide)
    · exact long rfl
    · omega
  refine ⟨fun next step => ?_, unstamped⟩
  cases step with
  | padding _ kind => exact notPadding kind
  | timestamp stamp => exact unstamped stamp
  | other more _ _ notStamp long =>
    obtain missing | short | ⟨kind, -⟩ := wrong
    · omega
    · omega
    · exact notStamp kind

/-- A malformed option is reported behind the options that lead to it. -/
theorem ReportsMalformed.of_next {ret : Int} (step : NextOption capture optionEnd ptr next)
    (rest : ReportsMalformed capture next optionEnd ret) :
    ReportsMalformed capture ptr optionEnd ret := by
  obtain ⟨zero, none⟩ | ⟨negative, place, walk, malformed⟩ := rest
  · refine .inl ⟨zero, fun place walk malformed => ?_⟩
    obtain rfl | later := (walks_iff_of_next step place).mp walk
    · exact malformed.stops.1 next step
    · exact none place later malformed
  · exact .inr ⟨negative, place, .head step walk, malformed⟩

/-- What is stored behind an option that is no timestamp is what is stored from it on. -/
theorem StoresTimestamp.of_next {before after : PacketInfo v}
    (step : NextOption capture optionEnd ptr next) (unstamped : ¬TimestampAt capture optionEnd ptr)
    (rest : StoresTimestamp capture next optionEnd before after) :
    StoresTimestamp capture ptr optionEnd before after := by
  obtain ⟨last, ⟨reached, timestamp, latest⟩, stored⟩ | ⟨none, same⟩ := rest
  · refine .inl ⟨last, ⟨.head step reached, timestamp, fun place walk stamp => ?_⟩, stored⟩
    obtain rfl | later := (walks_iff_of_next step place).mp walk
    · exact absurd stamp unstamped
    · exact latest place later stamp
  · refine .inr ⟨fun place walk stamp => ?_, same⟩
    obtain rfl | later := (walks_iff_of_next step place).mp walk
    · exact unstamped stamp
    · exact none place later stamp

/-- A timestamp option is stored unless a later one replaces it. -/
theorem StoresTimestamp.of_timestamp {before after : PacketInfo v}
    (stamp : TimestampAt capture optionEnd ptr)
    (rest : StoresTimestamp capture (ptr + 10) optionEnd (before.stamped capture ptr) after) :
    StoresTimestamp capture ptr optionEnd before after := by
  have step : NextOption capture optionEnd ptr (ptr + 10) := .timestamp stamp
  obtain ⟨last, ⟨reached, timestamp, latest⟩, stored⟩ | ⟨none, same⟩ := rest
  · refine .inl ⟨last, ⟨.head step reached, timestamp, fun place walk stamped => ?_⟩, stored⟩
    obtain rfl | later := (walks_iff_of_next step place).mp walk
    · have onward := reached.forward
      omega
    · exact latest place later stamped
  · refine .inl ⟨ptr, ⟨.refl, stamp, fun place walk stamped => ?_⟩, same⟩
    obtain rfl | later := (walks_iff_of_next step place).mp walk
    · exact Nat.le_refl _
    · exact absurd stamped (none place later)

/-- A walk that ends here without fault reports and stores nothing. -/
theorem walk_ends (stops : ∀ next, ¬NextOption capture optionEnd ptr next)
    (sound : ¬MalformedAt capture optionEnd ptr) (unstamped : ¬TimestampAt capture optionEnd ptr)
    (info : PacketInfo v) :
    ReportsMalformed capture ptr optionEnd 0 ∧ StoresTimestamp capture ptr optionEnd info info := by
  refine ⟨.inl ⟨rfl, fun place walk => ?_⟩, .inr ⟨fun place walk => ?_, rfl⟩⟩
  · rwa [(walks_iff_of_last stops place).mp walk]
  · rwa [(walks_iff_of_last stops place).mp walk]

/-- A walk that ends in a malformed option reports it and stores nothing more. -/
theorem walk_fails (malformed : MalformedAt capture optionEnd ptr) (info : PacketInfo v) :
    ReportsMalformed capture ptr optionEnd (-1) ∧
      StoresTimestamp capture ptr optionEnd info info := by
  refine ⟨.inr ⟨rfl, ptr, .refl, malformed⟩, .inr ⟨fun place walk => ?_, rfl⟩⟩
  rw [(walks_iff_of_last malformed.stops.1 place).mp walk]
  exact malformed.stops.2

end Walk

/-- The loop of the parser follows the walk. -/
theorem parseTcpOptions_walks (capture : Capture) (ptr optionEnd : Nat) (info : PacketInfo v) :
    ReportsMalformed capture ptr optionEnd (parseTcpOptions capture ptr optionEnd info).1 ∧
      StoresTimestamp capture ptr optionEnd info
        (parseTcpOptions capture ptr optionEnd info).2 := by
  fun_induction parseTcpOptions capture ptr optionEnd info with
  | case1 ptr info more kind last =>
    refine walk_ends (fun next step => ?_) (fun malformed => malformed.notEnd last)
      (fun stamp => absurd (last.symm.trans stamp.kind) (by decide)) info
    cases step with
    | padding _ padding => exact absurd (last.symm.trans padding) (by decide)
    | timestamp stamp => exact absurd (last.symm.trans stamp.kind) (by decide)
    | other _ notEnd => exact notEnd last
  | case2 ptr info more kind notEnd padding ih =>
    have step : NextOption capture optionEnd ptr (ptr + 1) := .padding more padding
    have unstamped : ¬TimestampAt capture optionEnd ptr := fun stamp =>
      absurd (padding.symm.trans stamp.kind) (by decide)
    exact ⟨ih.1.of_next step, ih.2.of_next step unstamped⟩
  | case3 ptr info more kind notEnd notPadding stamp missing =>
    exact walk_fails ⟨more, notEnd, notPadding, .inl missing⟩ info
  | case4 ptr info more kind notEnd notPadding stamp present long =>
    exact walk_fails ⟨more, notEnd, notPadding, .inr (.inr ⟨stamp, .inl long⟩)⟩ info
  | case5 ptr info more kind notEnd notPadding stamp present long cut =>
    exact walk_fails ⟨more, notEnd, notPadding, .inr (.inr ⟨stamp, .inr cut⟩)⟩ info
  | case6 ptr info more kind notEnd notPadding stamp present length complete ih =>
    have timestamp : TimestampAt capture optionEnd ptr :=
      ⟨stamp, not_not.mp length, Nat.not_lt.mp complete⟩
    exact ⟨ih.1.of_next (.timestamp timestamp), ih.2.of_timestamp timestamp⟩
  | case7 ptr info more kind notEnd notPadding notStamp missing =>
    exact walk_fails ⟨more, notEnd, notPadding, .inl missing⟩ info
  | case8 ptr info more kind notEnd notPadding notStamp present len short =>
    exact walk_fails ⟨more, notEnd, notPadding, .inr (.inl (Nat.lt_succ_of_le short))⟩ info
  | case9 ptr info more kind notEnd notPadding notStamp present len long ih =>
    have step : NextOption capture optionEnd ptr (ptr + len) :=
      .other (Nat.not_le.mp present) notEnd notPadding notStamp (Nat.not_le.mp long)
    exact ⟨ih.1.of_next step, ih.2.of_next step fun stamp => notStamp stamp.kind⟩
  | case10 ptr info done =>
    refine walk_ends (fun next step => done step.forward.1) (fun malformed => done malformed.inside)
      (fun stamp => ?_) info
    have inside := stamp.inside
    omega

/-! ### Reads inside the region -/

/-- The bytes of a region; there are no others to read. -/
def Capture.within (capture : Capture) (first last : Nat) (place : Nat) : Option UInt8 :=
  if first ≤ place ∧ place < last then some (capture.read place) else none

/-- `read_u32`, where a byte may not be there. -/
def readU32 (read : Nat → Option UInt8) (place : Nat) : Option UInt32 := do
  let byte0 ← read place
  let byte1 ← read (place + 1)
  let byte2 ← read (place + 2)
  let byte3 ← read (place + 3)
  return UInt32.ofNat (BigEndian.decode [byte0, byte1, byte2, byte3])

/-- The loop of `parse_tcp_option` where a byte may not be there; it fails at the first one that is
not. -/
def parseTcpOptionsWithin (read : Nat → Option UInt8) (ptr optionEnd : Nat)
    (info : PacketInfo v) : Option (Int × PacketInfo v) :=
  if ptr < optionEnd then
    (read ptr).bind fun kind =>
      if kind = 0 then some (0, info)
      else if kind = 1 then parseTcpOptionsWithin read (ptr + 1) optionEnd info
      else if kind = 8 then
        if optionEnd ≤ ptr + 1 then some (-1, info)
        else
          (read (ptr + 1)).bind fun length =>
            if length ≠ 10 then some (-1, info)
            else if optionEnd < ptr + 10 then some (-1, info)
            else
              (readU32 read (ptr + 2)).bind fun ts =>
                (readU32 read (ptr + 6)).bind fun tsAck =>
                  parseTcpOptionsWithin read (ptr + 10) optionEnd
                    { info with hasTs := true, ts, tsAck }
      else if optionEnd ≤ ptr + 1 then some (-1, info)
      else
        (read (ptr + 1)).bind fun length =>
          if length.toNat ≤ 1 then some (-1, info)
          else parseTcpOptionsWithin read (ptr + length.toNat) optionEnd info
  else some (0, info)
  termination_by optionEnd - ptr

/-- A byte of the region. -/
theorem Capture.within_inside (capture : Capture) {first last place : Nat} (low : first ≤ place)
    (high : place < last) : capture.within first last place = some (capture.read place) :=
  if_pos ⟨low, high⟩

/-- A number in the region. -/
theorem readU32_within (capture : Capture) {first last place : Nat} (low : first ≤ place)
    (high : place + 4 ≤ last) :
    readU32 (capture.within first last) place = some (capture.u32 place) := by
  simp only [readU32, capture.within_inside low (show place < last by omega),
    capture.within_inside (show first ≤ place + 1 by omega) (show place + 1 < last by omega),
    capture.within_inside (show first ≤ place + 2 by omega) (show place + 2 < last by omega),
    capture.within_inside (show first ≤ place + 3 by omega) (show place + 3 < last by omega)]
  rfl

/-- The parser reads bytes of the region only. -/
theorem parseTcpOptionsWithin_eq (capture : Capture) {first ptr : Nat} (optionEnd : Nat)
    (info : PacketInfo v) (low : first ≤ ptr) :
    parseTcpOptionsWithin (capture.within first optionEnd) ptr optionEnd info =
      some (parseTcpOptions capture ptr optionEnd info) := by
  fun_induction parseTcpOptions capture ptr optionEnd info with
  | case1 ptr info more kind last =>
    rw [parseTcpOptionsWithin, if_pos more, capture.within_inside low more, Option.bind_some,
      if_pos last]
  | case2 ptr info more kind notEnd padding ih =>
    rw [parseTcpOptionsWithin, if_pos more, capture.within_inside low more, Option.bind_some,
      if_neg notEnd, if_pos padding, ih (by omega)]
  | case3 ptr info more kind notEnd notPadding stamp missing =>
    rw [parseTcpOptionsWithin, if_pos more, capture.within_inside low more, Option.bind_some,
      if_neg notEnd, if_neg notPadding, if_pos stamp, if_pos missing]
  | case4 ptr info more kind notEnd notPadding stamp present long =>
    rw [parseTcpOptionsWithin, if_pos more, capture.within_inside low more, Option.bind_some,
      if_neg notEnd, if_neg notPadding, if_pos stamp, if_neg present,
      capture.within_inside (by omega) (Nat.not_le.mp present), Option.bind_some, if_pos long]
  | case5 ptr info more kind notEnd notPadding stamp present long cut =>
    rw [parseTcpOptionsWithin, if_pos more, capture.within_inside low more, Option.bind_some,
      if_neg notEnd, if_neg notPadding, if_pos stamp, if_neg present,
      capture.within_inside (by omega) (Nat.not_le.mp present), Option.bind_some, if_neg long,
      if_pos cut]
  | case6 ptr info more kind notEnd notPadding stamp present long complete ih =>
    rw [parseTcpOptionsWithin, if_pos more, capture.within_inside low more, Option.bind_some,
      if_neg notEnd, if_neg notPadding, if_pos stamp, if_neg present,
      capture.within_inside (by omega) (Nat.not_le.mp present), Option.bind_some, if_neg long,
      if_neg complete, readU32_within capture (by omega) (by omega), Option.bind_some,
      readU32_within capture (by omega) (by omega), Option.bind_some, ih (by omega)]
  | case7 ptr info more kind notEnd notPadding notStamp missing =>
    rw [parseTcpOptionsWithin, if_pos more, capture.within_inside low more, Option.bind_some,
      if_neg notEnd, if_neg notPadding, if_neg notStamp, if_pos missing]
  | case8 ptr info more kind notEnd notPadding notStamp present len short =>
    rw [parseTcpOptionsWithin, if_pos more, capture.within_inside low more, Option.bind_some,
      if_neg notEnd, if_neg notPadding, if_neg notStamp, if_neg present,
      capture.within_inside (by omega) (Nat.not_le.mp present), Option.bind_some, if_pos short]
  | case9 ptr info more kind notEnd notPadding notStamp present len long ih =>
    rw [parseTcpOptionsWithin, if_pos more, capture.within_inside low more, Option.bind_some,
      if_neg notEnd, if_neg notPadding, if_neg notStamp, if_neg present,
      capture.within_inside (by omega) (Nat.not_le.mp present), Option.bind_some, if_neg long,
      ih (by omega)]
  | case10 ptr info done =>
    rw [parseTcpOptionsWithin, if_neg done]

/-- The parser reads no byte outside the region, reports exactly the malformed options, and leaves
the last timestamp option or none. -/
theorem parseTcpOption_exact (capture : Capture) (optionBegin optionEnd : Nat)
    (info : PacketInfo v) :
    parseTcpOptionsWithin (capture.within optionBegin optionEnd) optionBegin optionEnd
        { info with hasTs := false, ts := 0 } =
          some (parseTcpOption capture optionBegin optionEnd info) ∧
      ReportsMalformed capture optionBegin optionEnd
        (parseTcpOption capture optionBegin optionEnd info).1 ∧
      StoresTimestamp capture optionBegin optionEnd { info with hasTs := false, ts := 0 }
        (parseTcpOption capture optionBegin optionEnd info).2 := by
  obtain ⟨reports, stores⟩ := parseTcpOptions_walks capture optionBegin optionEnd
    { info with hasTs := false, ts := 0 }
  exact ⟨parseTcpOptionsWithin_eq capture optionEnd _ (Nat.le_refl _), reports, stores⟩

end Udp2raw
