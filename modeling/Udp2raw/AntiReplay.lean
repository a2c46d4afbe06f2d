import Udp2raw.Misc
import Mathlib.Data.List.Nodup
import Udp2raw.Data.ReplayFilter

/-!
# The anti-replay window

`anti_replay_t` of `connection.cpp`: a ring of flags, one for each residue, that is not
cleared when a session starts. Its contract is the sliding-window replay filter: only the
residues of the current window carry meaning, and whatever the ring held before the
session is never read.
-/
namespace Udp2raw

open ReplayFilter

/-- `anti_replay_t`. -/
structure AntiReplay where
  /-- Largest number accepted in this session, zero before the first one. -/
  maxPacketReceived : UInt64
  /-- One flag for each residue; only the value one marks a received number. -/
  window : Vector UInt8 antiReplayWindowSize
  /-- Next number to send. -/
  antiReplaySeq : UInt64

namespace AntiReplay

/-- `get_new_seq_for_send`: the number to send and the advanced counter. -/
def getNewSeqForSend (ar : AntiReplay) : UInt64 × AntiReplay :=
  (ar.antiReplaySeq, { ar with antiReplaySeq := ar.antiReplaySeq + 1 })

/-- The constructor leaves the window as the memory was; the first number is random. -/
def new (garbage : Vector UInt8 antiReplayWindowSize) (random : UInt64) : AntiReplay where
  maxPacketReceived := 0
  window := garbage
  antiReplaySeq := random / 10

/-- `re_init`: a new session keeps the window's old content. -/
def reInit (ar : AntiReplay) : AntiReplay := { ar with maxPacketReceived := 0 }

/-- The slot of a number in the ring. -/
def slot (number : Nat) : Fin antiReplayWindowSize :=
  ⟨number % antiReplayWindowSize, Nat.mod_lt _ (by decide)⟩

/-- Write one flag. -/
def mark (window : Vector UInt8 antiReplayWindowSize) (number : Nat) (flag : UInt8) :
    Vector UInt8 antiReplayWindowSize :=
  window.set (slot number) flag

/-- The clearing loop: `count` numbers from `first` on lose their flags. -/
def clearFrom (window : Vector UInt8 antiReplayWindowSize) (first : Nat) :
    Nat → Vector UInt8 antiReplayWindowSize
  | 0 => window
  | count + 1 => clearFrom (mark window first 0) (first + 1) count

/-- `is_vaild`: whether a number is accepted, and the window after the call. -/
def isVaild (disableAntiReplay : Bool) (ar : AntiReplay) (seq : UInt64) : Bool × AntiReplay :=
  let highest := ar.maxPacketReceived.toNat
  let number := seq.toNat
  if disableAntiReplay then (true, ar)
  else if number = highest then (false, ar)
  else if highest < number then
    if antiReplayWindowSize ≤ number - highest then
      (true, { ar with
        window := mark (Vector.replicate antiReplayWindowSize 0) number 1
        maxPacketReceived := seq })
    else
      (true, { ar with
        window := mark (clearFrom ar.window (highest + 1) (number - (highest + 1))) number 1
        maxPacketReceived := seq })
  else if antiReplayWindowSize ≤ highest - number then (false, ar)
  else if ar.window.get (slot number) = 1 then (false, ar)
  else (true, { ar with window := mark ar.window number 1 })

/-- A received number does not matter to the next one to send. -/
theorem isVaild_antiReplaySeq {disableAntiReplay answer : Bool} {ar next : AntiReplay}
    {seq : UInt64} (valid : isVaild disableAntiReplay ar seq = (answer, next)) :
    next.antiReplaySeq = ar.antiReplaySeq := by
  rw [show next = (isVaild disableAntiReplay ar seq).2 by rw [valid]]
  unfold isVaild
  dsimp only
  split_ifs <;> rfl

/-- One call on a window together with the history of the numbers it accepted, the latest
first. -/
def call (state : AntiReplay × List Nat) (seq : UInt64) : AntiReplay × List Nat :=
  let answer := isVaild false state.1 seq
  (answer.2, if answer.1 then seq.toNat :: state.2 else state.2)

/-- A sequence of calls from one window, with an empty history. -/
def calls (ar : AntiReplay) (seqs : List UInt64) : AntiReplay × List Nat :=
  seqs.foldl call (ar, [])

/-- Two numbers share a slot exactly when they share a residue. -/
theorem slot_eq_iff (left right : Nat) :
    slot left = slot right ↔ left % antiReplayWindowSize = right % antiReplayWindowSize := by
  simp [slot]

/-- A written flag is read back in its own slot and nowhere else. -/
theorem get_mark (window : Vector UInt8 antiReplayWindowSize) (number : Nat) (flag : UInt8)
    (place : Fin antiReplayWindowSize) :
    (mark window number flag).get place =
      if place = slot number then flag else window.get place := by
  have sameSlot : (slot number).val = place.val ↔ place = slot number := by
    constructor
    · intro same
      exact Fin.ext same.symm
    · rintro rfl
      rfl
  change (window.set (slot number).val flag)[place.val] = _
  rw [Vector.getElem_set]
  simp only [sameSlot]
  rfl

/-- The clearing loop leaves a slot alone when no cleared number falls into it. -/
theorem get_clearFrom_other (window : Vector UInt8 antiReplayWindowSize) (first count : Nat)
    (place : Fin antiReplayWindowSize)
    (outside : ∀ number, first ≤ number → number < first + count → place ≠ slot number) :
    (clearFrom window first count).get place = window.get place := by
  induction count generalizing window first with
  | zero => rfl
  | succ count ih =>
    rw [clearFrom, ih _ _ fun number above below => outside number (by omega) (by omega), get_mark,
      if_neg (outside first (Nat.le_refl _) (by omega))]

/-- The clearing loop zeroes the slot of every number it passes. -/
theorem get_clearFrom_passed (window : Vector UInt8 antiReplayWindowSize) (first count number : Nat)
    (above : first ≤ number) (below : number < first + count)
    (short : count ≤ antiReplayWindowSize) :
    (clearFrom window first count).get (slot number) = 0 := by
  induction count generalizing window first with
  | zero => omega
  | succ count ih =>
    rw [clearFrom]
    by_cases here : number = first
    · subst here
      rw [get_clearFrom_other, get_mark, if_pos rfl]
      intro later lower upper shared
      have same := residue_injective (by omega) (by omega) ((slot_eq_iff _ _).mp shared)
      omega
    · exact ih _ _ (by omega) (by omega) (by omega)

/-- What the window remembers of a history of accepted numbers. The numbers from one on are
remembered exactly; a zero may be forgotten, but an accepted one is never forgotten. -/
structure Remembers (ar : AntiReplay) (accepted : List Nat) : Prop where
  /-- Before the first accepted number nothing is remembered. -/
  empty : accepted = [] → ar.maxPacketReceived.toNat = 0
  /-- Afterwards the largest accepted number is a positive one. -/
  highest : accepted ≠ [] →
    0 < ar.maxPacketReceived.toNat ∧ ar.maxPacketReceived.toNat ∈ accepted
  /-- No accepted number is larger. -/
  below : ∀ number ∈ accepted, number ≤ ar.maxPacketReceived.toNat
  /-- Every accepted number inside the window has its flag. -/
  marked : ∀ number ∈ accepted, ar.maxPacketReceived.toNat < number + antiReplayWindowSize →
    ar.window.get (slot number) = 1
  /-- Every flagged positive number inside the window was accepted. -/
  genuine : ∀ number, 0 < number → number ≤ ar.maxPacketReceived.toNat →
    ar.maxPacketReceived.toNat < number + antiReplayWindowSize →
      ar.window.get (slot number) = 1 → number ∈ accepted

/-- A window at the start of a session remembers the empty history, whatever it contains. -/
theorem start_remembers {ar : AntiReplay} (start : ar.maxPacketReceived = 0) :
    Remembers ar [] where
  empty _ := by rw [start]; rfl
  highest nonempty := absurd rfl nonempty
  below := by simp
  marked := by simp
  genuine number positive bounded := by
    rw [start] at bounded
    change number ≤ 0 at bounded
    omega

/-- Advancing the window to a larger number: the flags of the new window are those of the
old one below the old maximum, cleared above it, and set for the new number. -/
theorem Remembers.advance {ar : AntiReplay} {accepted : List Nat} (memory : Remembers ar accepted)
    {seq : UInt64} {window : Vector UInt8 antiReplayWindowSize}
    (larger : ar.maxPacketReceived.toNat < seq.toNat)
    (own : window.get (slot seq.toNat) = 1)
    (kept : ∀ number ≤ ar.maxPacketReceived.toNat, seq.toNat < number + antiReplayWindowSize →
      window.get (slot number) = ar.window.get (slot number))
    (cleared : ∀ number, ar.maxPacketReceived.toNat < number → number < seq.toNat →
      seq.toNat < number + antiReplayWindowSize → window.get (slot number) = 0) :
    Remembers { ar with window := window, maxPacketReceived := seq } (seq.toNat :: accepted) where
  empty impossible := nomatch impossible
  highest _ := ⟨by change 0 < seq.toNat; omega, List.mem_cons_self⟩
  below number member := by
    change number ≤ seq.toNat
    rcases List.mem_cons.mp member with rfl | earlier
    · exact Nat.le_refl _
    · have := memory.below number earlier
      omega
  marked number member inside := by
    change seq.toNat < number + antiReplayWindowSize at inside
    change window.get (slot number) = 1
    rcases List.mem_cons.mp member with rfl | earlier
    · exact own
    · have bounded := memory.below number earlier
      rw [kept number bounded inside]
      exact memory.marked number earlier (by omega)
  genuine number positive bounded inside flagged := by
    change number ≤ seq.toNat at bounded
    change seq.toNat < number + antiReplayWindowSize at inside
    change window.get (slot number) = 1 at flagged
    by_cases own : number = seq.toNat
    · subst own
      exact List.mem_cons_self
    · by_cases old : number ≤ ar.maxPacketReceived.toNat
      · rw [kept number old inside] at flagged
        exact List.mem_cons_of_mem _ (memory.genuine number positive old (by omega) flagged)
      · rw [cleared number (by omega) (by omega) inside] at flagged
        exact absurd flagged (by decide)

/-- A number below the maximum and inside the window only gains its own flag. -/
theorem Remembers.fill {ar : AntiReplay} {accepted : List Nat} (memory : Remembers ar accepted)
    {seq : UInt64} (smaller : seq.toNat < ar.maxPacketReceived.toNat)
    (inside : ar.maxPacketReceived.toNat < seq.toNat + antiReplayWindowSize) :
    Remembers { ar with window := mark ar.window seq.toNat 1 } (seq.toNat :: accepted) where
  empty impossible := nomatch impossible
  highest _ := by
    change 0 < ar.maxPacketReceived.toNat ∧ ar.maxPacketReceived.toNat ∈ seq.toNat :: accepted
    have nonempty : accepted ≠ [] := by
      intro empty
      have := memory.empty empty
      omega
    exact ⟨(memory.highest nonempty).1, List.mem_cons_of_mem _ (memory.highest nonempty).2⟩
  below number member := by
    change number ≤ ar.maxPacketReceived.toNat
    rcases List.mem_cons.mp member with rfl | earlier
    · omega
    · exact memory.below number earlier
  marked number member near := by
    change ar.maxPacketReceived.toNat < number + antiReplayWindowSize at near
    change (mark ar.window seq.toNat 1).get (slot number) = 1
    rw [get_mark]
    split
    · rfl
    · rcases List.mem_cons.mp member with rfl | earlier
      · contradiction
      · exact memory.marked number earlier near
  genuine number positive bounded near flagged := by
    change number ≤ ar.maxPacketReceived.toNat at bounded
    change ar.maxPacketReceived.toNat < number + antiReplayWindowSize at near
    change (mark ar.window seq.toNat 1).get (slot number) = 1 at flagged
    rw [get_mark] at flagged
    split at flagged
    · rename_i shared
      have residues := (slot_eq_iff _ _).mp shared
      have same : number = seq.toNat := by
        rcases Nat.le_total number seq.toNat with low | high
        · exact residue_injective low (by omega) residues
        · exact (residue_injective high (by omega) residues.symm).symm
      exact List.mem_cons.mpr (Or.inl same)
    · exact List.mem_cons_of_mem _ (memory.genuine number positive bounded near flagged)

/-- One call answers as the replay filter does, and the window keeps remembering. -/
theorem isVaild_remembers {ar : AntiReplay} {accepted : List Nat} (memory : Remembers ar accepted)
    (seq : UInt64) :
    (0 < seq.toNat →
      ((isVaild false ar seq).1 = true ↔ Admits antiReplayWindowSize accepted seq.toNat)) ∧
      ((isVaild false ar seq).1 = true → seq.toNat ∉ accepted) ∧
      Remembers (isVaild false ar seq).2
        (if (isVaild false ar seq).1 then seq.toNat :: accepted else accepted) := by
  have width : 0 < antiReplayWindowSize := by decide
  by_cases equal : seq.toNat = ar.maxPacketReceived.toNat
  · -- the largest accepted number again, or zero before any number
    have answer : isVaild false ar seq = (false, ar) := by simp [isVaild, equal]
    rw [answer]
    refine ⟨fun positive => ?_, by simp, by simpa using memory⟩
    have nonempty : accepted ≠ [] := by
      intro empty
      have := memory.empty empty
      omega
    have member := (memory.highest nonempty).2
    rw [← equal] at member
    simp [Admits, member]
  · by_cases larger : ar.maxPacketReceived.toNat < seq.toNat
    · -- a new maximum is always accepted; the flags between the two maxima are cleared
      have new : seq.toNat ∉ accepted := by
        intro member
        have := memory.below _ member
        omega
      have admitted : Admits antiReplayWindowSize accepted seq.toNat := by
        refine ⟨new, fun earlier member => ?_⟩
        have := memory.below _ member
        omega
      by_cases far : antiReplayWindowSize ≤ seq.toNat - ar.maxPacketReceived.toNat
      · have answer : isVaild false ar seq = (true, { ar with
            window := mark (Vector.replicate antiReplayWindowSize 0) seq.toNat 1
            maxPacketReceived := seq }) := by simp [isVaild, equal, larger, far]
        rw [answer]
        refine ⟨fun _ => by simp [admitted], fun _ => new, ?_⟩
        refine memory.advance larger (by rw [get_mark, if_pos rfl]) (fun number old inside => ?_)
          (fun number above below inside => ?_)
        · omega
        · rw [get_mark, if_neg]
          · change (Vector.replicate antiReplayWindowSize (0 : UInt8))[(slot number).val] = 0
            rw [Vector.getElem_replicate]
          · intro shared
            have := residue_injective (by omega) (by omega) ((slot_eq_iff _ _).mp shared)
            omega
      · have answer : isVaild false ar seq = (true, { ar with
            window := mark (clearFrom ar.window (ar.maxPacketReceived.toNat + 1)
              (seq.toNat - (ar.maxPacketReceived.toNat + 1))) seq.toNat 1
            maxPacketReceived := seq }) := by simp [isVaild, equal, larger, far]
        rw [answer]
        refine ⟨fun _ => by simp [admitted], fun _ => new, ?_⟩
        refine memory.advance larger (by rw [get_mark, if_pos rfl]) (fun number old inside => ?_)
          (fun number above below inside => ?_)
        · -- an old number of the new window shares no residue with the numbers passed
          have apart : ∀ passed, ar.maxPacketReceived.toNat < passed → passed ≤ seq.toNat →
              slot number ≠ slot passed := by
            intro passed low high shared
            have := residue_injective (by omega) (by omega) ((slot_eq_iff _ _).mp shared)
            omega
          rw [get_mark, if_neg (apart _ larger (Nat.le_refl _)), get_clearFrom_other]
          intro passed low high
          exact apart passed (by omega) (by omega)
        · rw [get_mark, if_neg]
          · exact get_clearFrom_passed _ _ _ _ (by omega) (by omega) (by omega)
          · intro shared
            have := residue_injective (by omega) (by omega) ((slot_eq_iff _ _).mp shared)
            omega
    · have smaller : seq.toNat < ar.maxPacketReceived.toNat := by omega
      have nonempty : accepted ≠ [] := by
        intro empty
        have := memory.empty empty
        omega
      have member := (memory.highest nonempty).2
      by_cases far : antiReplayWindowSize ≤ ar.maxPacketReceived.toNat - seq.toNat
      · have answer : isVaild false ar seq = (false, ar) := by
          simp [isVaild, equal, larger, far]
        rw [answer]
        refine ⟨fun _ => ?_, by simp, by simpa using memory⟩
        simp only [Bool.false_eq_true, false_iff]
        rintro ⟨-, inside⟩
        have := inside _ member
        omega
      · by_cases flagged : ar.window.get (slot seq.toNat) = 1
        · have answer : isVaild false ar seq = (false, ar) := by
            simp [isVaild, equal, larger, far, flagged]
          rw [answer]
          refine ⟨fun positive => ?_, by simp, by simpa using memory⟩
          have present := memory.genuine _ positive (by omega) (by omega) flagged
          simp [Admits, present]
        · have answer : isVaild false ar seq =
              (true, { ar with window := mark ar.window seq.toNat 1 }) := by
            simp [isVaild, equal, larger, far, flagged]
          have new : seq.toNat ∉ accepted := by
            intro present
            exact flagged (memory.marked _ present (by omega))
          rw [answer]
          refine ⟨fun _ => ?_, fun _ => new, memory.fill smaller (by omega)⟩
          simp only [true_iff]
          refine ⟨new, fun earlier present => ?_⟩
          have := memory.below _ present
          omega

/-- A window that accepts none of these numbers any more. -/
def Knows (ar : AntiReplay) (numbers : List UInt64) : Prop :=
  ∃ accepted, Remembers ar accepted ∧ ∀ seq ∈ numbers, seq.toNat ∈ accepted

/-- A window at the start of a session need not know anything. -/
theorem start_knows {ar : AntiReplay} (start : ar.maxPacketReceived = 0) : ar.Knows [] :=
  ⟨[], start_remembers start, List.forall_mem_nil _⟩

/-- A window that knows some numbers knows fewer. -/
theorem Knows.fewer {ar : AntiReplay} {numbers fewer : List UInt64} (knows : ar.Knows numbers)
    (part : ∀ seq ∈ fewer, seq ∈ numbers) : ar.Knows fewer := by
  obtain ⟨accepted, memory, inside⟩ := knows
  exact ⟨accepted, memory, fun seq among => inside seq (part seq among)⟩

/-- A number to send does not matter to what the window knows. -/
theorem Knows.sent {ar : AntiReplay} {numbers : List UInt64} (knows : ar.Knows numbers) :
    ar.getNewSeqForSend.2.Knows numbers := by
  obtain ⟨accepted, memory, inside⟩ := knows
  exact ⟨accepted, ⟨memory.empty, memory.highest, memory.below, memory.marked, memory.genuine⟩,
    inside⟩

/-- A number that the window accepts is none that it knows, and it knows it afterwards. -/
theorem Knows.accept {ar next : AntiReplay} {numbers : List UInt64} {seq : UInt64}
    (knows : ar.Knows numbers) (valid : isVaild false ar seq = (true, next)) :
    seq ∉ numbers ∧ next.Knows (seq :: numbers) := by
  obtain ⟨accepted, memory, inside⟩ := knows
  obtain ⟨-, new, grown⟩ := isVaild_remembers memory seq
  rw [valid] at new grown
  refine ⟨fun known => new rfl (inside seq known), seq.toNat :: accepted, grown, ?_⟩
  intro other among
  obtain rfl | among := List.mem_cons.mp among
  · exact List.mem_cons_self
  · exact List.mem_cons_of_mem _ (inside other among)

/-- After any sequence of calls the window remembers the numbers it accepted, each of which it
accepted once. -/
theorem calls_remembers {ar : AntiReplay} (start : ar.maxPacketReceived = 0) (seqs : List UInt64) :
    Remembers (calls ar seqs).1 (calls ar seqs).2 ∧ (calls ar seqs).2.Nodup := by
  suffices general : ∀ (seqs : List UInt64) (state : AntiReplay × List Nat),
      Remembers state.1 state.2 ∧ state.2.Nodup →
        Remembers (seqs.foldl call state).1 (seqs.foldl call state).2 ∧
          (seqs.foldl call state).2.Nodup from
    general seqs (ar, []) ⟨start_remembers start, List.nodup_nil⟩
  intro seqs
  induction seqs with
  | nil => exact fun _ holds => holds
  | cons seq rest ih =>
    intro state holds
    refine ih (call state seq) ?_
    obtain ⟨-, new, next⟩ := isVaild_remembers holds.1 seq
    refine ⟨next, ?_⟩
    simp only [call]
    split
    · rename_i accepted
      exact List.nodup_cons.mpr ⟨new accepted, holds.2⟩
    · exact holds.2

/-- The window is exact: after any calls, a positive number is accepted exactly when it was not
accepted before and lies inside the window, and zero is accepted at most once. -/
theorem isVaild_exact (ar : AntiReplay) (start : ar.maxPacketReceived = 0) (seqs : List UInt64)
    (seq : UInt64) :
    (1 ≤ seq.toNat →
      ((isVaild false (calls ar seqs).1 seq).1 = true ↔
        seq.toNat ∉ (calls ar seqs).2 ∧
          ((calls ar seqs).2 = [] ∨ ∃ largest, (calls ar seqs).2.max? = some largest ∧
            largest < seq.toNat + antiReplayWindowSize))) ∧
      (calls ar seqs).2.count 0 ≤ 1 := by
  obtain ⟨memory, once⟩ := calls_remembers start seqs
  refine ⟨fun positive => ?_, List.nodup_iff_count_le_one.mp once 0⟩
  rw [(isVaild_remembers memory seq).1 positive, admits_iff_max]

/-- The exactness at a window full of ones: the stale flags do not hide a number between those that
were accepted, a repeated number is refused, and so is one that is too old. -/
theorem isVaild_exact_stale :
    let stale := new (Vector.replicate antiReplayWindowSize 1) 0
    (isVaild false (calls stale [9, 9, 3, 20, 15, 15]).1 17).1 = true ∧
      (isVaild false (calls stale [9, 9, 3, 20, 15, 15]).1 20).1 = false ∧
      (isVaild false (calls stale [9, 9, 3, 20, 15, 15, 5000]).1 17).1 = false := by
  intro stale
  have few : (calls stale [9, 9, 3, 20, 15, 15]).2 = [15, 20, 3, 9] := by decide +kernel
  have more : (calls stale [9, 9, 3, 20, 15, 15, 5000]).2 = [5000, 15, 20, 3, 9] := by
    decide +kernel
  have early (seq : UInt64) (positive : 1 ≤ seq.toNat) :=
    (isVaild_exact stale rfl [9, 9, 3, 20, 15, 15] seq).1 positive
  have late := (isVaild_exact stale rfl [9, 9, 3, 20, 15, 15, 5000] 17).1 (by decide)
  rw [few] at early
  rw [more] at late
  refine ⟨(early 17 (by decide)).mpr ⟨by decide, .inr ⟨20, rfl, by decide⟩⟩, ?_, ?_⟩
  · exact Bool.eq_false_iff.mpr fun accepted =>
      absurd ((early 20 (by decide)).mp accepted).1 (by decide)
  · refine Bool.eq_false_iff.mpr fun accepted => ?_
    obtain none | ⟨largest, top, near⟩ := (late.mp accepted).2
    · exact absurd none (List.cons_ne_nil _ _)
    · have highest : [5000, 15, 20, 3, 9].max? = some 5000 := by decide +kernel
      obtain rfl := Option.some.inj (highest.symm.trans top)
      have number : (17 : UInt64).toNat = 17 := rfl
      rw [number, antiReplayWindowSize] at near
      omega

end AntiReplay

end Udp2raw
