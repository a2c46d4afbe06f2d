import Udp2raw.Server.Erasing

/-!
# Numbers of descriptors

`fd_manager_t` numbers the descriptors of the connections, above all numbers that the kernel
uses. Its tables agree with each other as long as they are only changed through it, and a
closed number disappears from all of them without touching another one.
-/
namespace Udp2raw.Descriptors

/-- The tables of `fd_manager_t` agree. -/
structure Sound (descriptors : Descriptors) : Prop where
  /-- A number stands for a descriptor exactly when the descriptor has the number. -/
  inverse : ∀ fd64 fd, descriptors.fd64ToFd.lookup fd64 = some fd ↔
    descriptors.fdToFd64.lookup fd = some fd64
  /-- A number was given out and is no descriptor of the kernel. -/
  numbered : ∀ fd64 ∈ descriptors.fd64ToFd, 2 ^ 32 - 1 < fd64 ∧ fd64 < descriptors.counter
  /-- The next number is no descriptor of the kernel. -/
  counter : 2 ^ 32 - 1 < descriptors.counter
  /-- Every number has an owner. -/
  info : ∀ fd64, fd64 ∈ descriptors.fdInfo ↔ fd64 ∈ descriptors.fd64ToFd

/-- Every numbered descriptor is open. -/
def Tracked (descriptors : Descriptors) : Prop :=
  ∀ fd64 fd, descriptors.fd64ToFd.lookup fd64 = some fd → fd ∈ descriptors.opened

/-- Some numbers were closed. -/
structure Closed (gone : Nat → Prop) (before after : Descriptors) : Prop where
  /-- The tables still agree. -/
  sound : after.Sound
  /-- The other numbers stand for what they stood for. -/
  fd64ToFd : ∀ fd64, ¬gone fd64 → after.fd64ToFd.lookup fd64 = before.fd64ToFd.lookup fd64
  /-- The other numbers have the same owners. -/
  fdInfo : ∀ fd64, ¬gone fd64 → after.fdInfo.lookup fd64 = before.fdInfo.lookup fd64
  /-- The closed numbers are unknown. -/
  lost : ∀ fd64, gone fd64 → fd64 ∉ after.fd64ToFd
  /-- The descriptors of the other numbers stay as they are. -/
  opened : ∀ fd64 fd, ¬gone fd64 → before.fd64ToFd.lookup fd64 = some fd →
    after.opened.lookup fd = before.opened.lookup fd
  /-- The next number is the same. -/
  counter : after.counter = before.counter
  /-- The kernel opened nothing. -/
  serials : after.serials = before.serials

variable {descriptors next : Descriptors} {fd64 fd : Nat} {p : Ptr}

/-- A new manager knows nothing. -/
theorem sound_new : Sound new where
  inverse := by simp [new]
  numbered := by simp [new]
  counter := by decide
  info := by simp [new]

/-- A new manager knows nothing. -/
theorem tracked_new : Tracked new := by simp [Tracked, new]

/-- What a number stands for after a descriptor was registered. -/
theorem lookup_registered (other : Nat) :
    (descriptors.registered fd p).fd64ToFd.lookup other =
      if other = descriptors.counter then some fd else descriptors.fd64ToFd.lookup other :=
  Table.lookup_insert _ _ _ _

/-- The owners after a descriptor was registered. -/
theorem info_registered (other : Nat) :
    (descriptors.registered fd p).fdInfo.lookup other =
      if other = descriptors.counter then some p else descriptors.fdInfo.lookup other :=
  Table.lookup_insert _ _ _ _

/-- The open descriptors after a descriptor was registered. -/
theorem opened_registered (other : Nat) :
    (descriptors.registered fd p).opened.lookup other =
      if other = fd then some descriptors.serials else descriptors.opened.lookup other :=
  Table.lookup_insert _ _ _ _

/-- The next number is not known yet. -/
theorem Sound.counter_unknown (sound : descriptors.Sound) :
    descriptors.counter ∉ descriptors.fd64ToFd :=
  fun known => Nat.lt_irrefl _ (sound.numbered _ known).2

/-- A registered descriptor keeps the tables. -/
theorem Sound.registered (sound : descriptors.Sound) (unused : descriptors.Unused fd) (p : Ptr) :
    (descriptors.registered fd p).Sound where
  inverse := Table.Inverse.insert sound.inverse sound.counter_unknown unused.2
  numbered := by
    intro other known
    have counter := sound.counter
    obtain ⟨value, known⟩ := Table.mem_iff_lookup.mp known
    rw [lookup_registered] at known
    show _ ∧ other < descriptors.counter + 1
    split at known
    · omega
    · have old := sound.numbered other (Table.mem_iff_lookup.mpr ⟨value, known⟩)
      omega
  counter := Nat.lt_succ_of_lt sound.counter
  info := by
    intro other
    rw [Table.mem_iff_lookup, Table.mem_iff_lookup, info_registered, lookup_registered]
    split
    · exact ⟨fun _ => ⟨_, rfl⟩, fun _ => ⟨_, rfl⟩⟩
    · rw [← Table.mem_iff_lookup, ← Table.mem_iff_lookup]
      exact sound.info other

/-- A registered descriptor is open. -/
theorem Tracked.registered (tracked : descriptors.Tracked) (fd : Nat) (p : Ptr) :
    (descriptors.registered fd p).Tracked := by
  intro other otherFd known
  rw [lookup_registered] at known
  rw [Table.mem_iff_lookup, opened_registered]
  split
  · exact ⟨_, rfl⟩
  · split at known
    · rename_i different _
      exact absurd (Option.some.inj known).symm different
    · exact Table.mem_iff_lookup.mp (tracked other otherFd known)

/-- A closed descriptor of the kernel is no matter of `fd_manager_t`. -/
theorem Sound.sockClose (sound : descriptors.Sound) (fd : Nat) : (descriptors.sockClose fd).Sound :=
  ⟨sound.inverse, sound.numbered, sound.counter, sound.info⟩

/-! ### Closing -/

/-- A known number can be closed. -/
theorem fd64Close_iff : descriptors.fd64Close fd64 = .ok next ↔
    ∃ fd, descriptors.fd64ToFd.lookup fd64 = some fd ∧
      { descriptors with
        fd64ToFd := descriptors.fd64ToFd.erase fd64
        fdToFd64 := descriptors.fdToFd64.erase fd
        fdInfo := descriptors.fdInfo.erase fd64 }.sockClose fd = next := by
  simp only [fd64Close, exec_bind_iff, toFd_iff, exec_pure_iff]

/-- The clear function of the server closes a number. -/
theorem serverClearFunction_iff :
    serverClearFunction fd64 descriptors = .ok next ↔ descriptors.fd64Close fd64 = .ok next := by
  simp only [serverClearFunction, exec_bind_iff, assert_iff]
  constructor
  · rintro ⟨-, -, closed⟩
    exact closed
  · intro closed
    obtain ⟨fd, known, -⟩ := fd64Close_iff.mp closed
    exact ⟨⟨⟩, decide_eq_true (Table.mem_iff_lookup.mpr ⟨fd, known⟩), closed⟩

/-- A closed number is gone and nothing else is. -/
theorem Sound.close (sound : descriptors.Sound) (closed : descriptors.fd64Close fd64 = .ok next) :
    Closed (fun other => other = fd64) descriptors next := by
  obtain ⟨fd, known, rfl⟩ := fd64Close_iff.mp closed
  have apart (other otherFd : Nat) (there : descriptors.fd64ToFd.lookup other = some otherFd) :
      otherFd = fd → other = fd64 := by
    rintro rfl
    exact Table.Inverse.key_unique sound.inverse known there
  have lookup (other : Nat) : (descriptors.fd64ToFd.erase fd64).lookup other =
      if other = fd64 then none else descriptors.fd64ToFd.lookup other :=
    Table.lookup_erase _ _ _
  constructor
  case sound =>
    constructor
    case inverse => exact Table.Inverse.erase sound.inverse known
    case numbered => exact fun other known => sound.numbered other (AList.mem_erase.mp known).2
    case counter => exact sound.counter
    case info =>
      intro other
      show other ∈ descriptors.fdInfo.erase fd64 ↔ other ∈ descriptors.fd64ToFd.erase fd64
      simp only [Table.erase, AList.mem_erase, sound.info]
  case fd64ToFd =>
    intro other different
    exact (lookup other).trans (if_neg different)
  case fdInfo =>
    intro other different
    exact (Table.lookup_erase _ _ _).trans (if_neg different)
  case lost =>
    rintro other rfl present
    exact (AList.mem_erase.mp present).1 rfl
  case opened =>
    intro other otherFd different there
    exact (Table.lookup_erase _ _ _).trans (if_neg fun same => different (apart _ _ there same))
  case counter => rfl
  case serials => rfl

namespace Closed

variable {gone also : Nat → Prop} {a b c : Descriptors}

/-- Nothing was closed. -/
theorem refl (sound : a.Sound) : Closed (fun _ => False) a a :=
  ⟨sound, fun _ _ => rfl, fun _ _ => rfl, nofun, fun _ _ _ _ => rfl, rfl, rfl⟩

/-- Two closings. -/
theorem trans (one : Closed gone a b) (two : Closed also b c) :
    Closed (fun fd64 => gone fd64 ∨ also fd64) a c where
  sound := two.sound
  fd64ToFd fd64 rest := by
    rw [not_or] at rest
    rw [two.fd64ToFd fd64 rest.2, one.fd64ToFd fd64 rest.1]
  fdInfo fd64 rest := by
    rw [not_or] at rest
    rw [two.fdInfo fd64 rest.2, one.fdInfo fd64 rest.1]
  lost fd64 closed known := by
    by_cases second : also fd64
    · exact two.lost fd64 second known
    · rw [Table.mem_iff_lookup, two.fd64ToFd fd64 second, ← Table.mem_iff_lookup] at known
      exact one.lost fd64 (closed.resolve_right second) known
  opened fd64 fd rest known := by
    rw [not_or] at rest
    rw [two.opened fd64 fd rest.2 ((one.fd64ToFd fd64 rest.1).trans known),
      one.opened fd64 fd rest.1 known]
  counter := two.counter.trans one.counter
  serials := two.serials.trans one.serials

/-- The same numbers were closed. -/
theorem congr (closed : Closed gone a b) (same : ∀ fd64, gone fd64 ↔ also fd64) :
    Closed also a b := by
  have equal : gone = also := funext fun fd64 => propext (same fd64)
  exact equal ▸ closed

/-- What is left is open as before. -/
theorem tracked (closed : Closed gone a b) (before : a.Tracked) : b.Tracked := by
  intro fd64 fd known
  have rest : ¬gone fd64 := fun lost =>
    closed.lost fd64 lost (Table.mem_iff_lookup.mpr ⟨fd, known⟩)
  have old := (closed.fd64ToFd fd64 rest).symm.trans known
  rw [Table.mem_iff_lookup, closed.opened fd64 fd rest old, ← Table.mem_iff_lookup]
  exact before fd64 fd old

end Closed

/-- The numbers of a list are closed one after the other. -/
theorem Sound.closeAll {numbers : List Nat} (sound : descriptors.Sound)
    (cleared : numbers.foldlM (fun descriptors fd64 => serverClearFunction fd64 descriptors)
      descriptors = .ok next) : Closed (fun fd64 => fd64 ∈ numbers) descriptors next := by
  induction numbers generalizing descriptors with
  | nil =>
    obtain rfl := Except.ok.inj cleared
    exact (Closed.refl sound).congr (by simp)
  | cons first rest ih =>
    rw [List.foldlM_cons, exec_bind_iff] at cleared
    obtain ⟨between, closed, cleared⟩ := cleared
    have one := sound.close (serverClearFunction_iff.mp closed)
    exact (one.trans (ih one.sound cleared)).congr (by simp)

/-- Different known numbers can all be closed. -/
theorem Sound.closeAll_succeeds {numbers : List Nat} (sound : descriptors.Sound)
    (known : ∀ fd64 ∈ numbers, fd64 ∈ descriptors.fd64ToFd) (distinct : numbers.Nodup) :
    ∃ next, numbers.foldlM (fun descriptors fd64 => serverClearFunction fd64 descriptors)
      descriptors = .ok next := by
  induction numbers generalizing descriptors with
  | nil => exact ⟨descriptors, rfl⟩
  | cons first rest ih =>
    obtain ⟨fresh, distinct⟩ := List.nodup_cons.mp distinct
    obtain ⟨fd, stored⟩ := Table.mem_iff_lookup.mp (known first List.mem_cons_self)
    have closed := fd64Close_iff.mpr ⟨fd, stored, rfl⟩
    have one := sound.close closed
    have left (fd64 : Nat) (inside : fd64 ∈ rest) : ¬fd64 = first := by
      rintro rfl
      exact fresh inside
    obtain ⟨next, cleared⟩ := ih one.sound (fun fd64 inside => by
      rw [Table.mem_iff_lookup, one.fd64ToFd fd64 (left fd64 inside), ← Table.mem_iff_lookup]
      exact known fd64 (List.mem_cons_of_mem _ inside)) distinct
    refine ⟨next, ?_⟩
    rw [List.foldlM_cons, exec_bind_iff]
    exact ⟨_, serverClearFunction_iff.mpr closed, cleared⟩

/-- The conversations of a connection release their sockets one after the other. -/
theorem clearAll_eq (manager : ConvManager Nat) (descriptors : Descriptors) :
    manager.clearAll serverClearFunction descriptors =
      (manager.convToData.entries.map Sigma.snd).foldlM
        (fun descriptors fd64 => serverClearFunction fd64 descriptors) descriptors := by
  rw [ConvManager.clearAll, List.foldlM_map]

end Udp2raw.Descriptors

namespace Udp2raw.ConvManager

variable {τ : Type} [DecidableEq τ] {manager : ConvManager τ}

/-- The data of the conversations. -/
theorem mem_data_iff {data : τ} : data ∈ manager.convToData.entries.map Sigma.snd ↔
    ∃ conv, manager.convToData.lookup conv = some data := by
  simp only [List.mem_map]
  constructor
  · rintro ⟨⟨conv, _⟩, inside, rfl⟩
    exact ⟨conv, AList.mem_lookup_iff.mpr inside⟩
  · rintro ⟨conv, known⟩
    exact ⟨⟨conv, data⟩, AList.mem_lookup_iff.mp known, rfl⟩

/-- Linked conversations have different data. -/
theorem Linked.data_nodup (linked : manager.Linked) :
    (manager.convToData.entries.map Sigma.snd).Nodup := by
  refine List.Nodup.map_on ?_ manager.convToData.nodupKeys.nodup
  rintro ⟨left, data⟩ inLeft ⟨right, _⟩ inRight rfl
  have one := (linked.inverse left data).mp (AList.mem_lookup_iff.mpr inLeft)
  have two := (linked.inverse right data).mp (AList.mem_lookup_iff.mpr inRight)
  rw [one] at two
  rw [Option.some.inj two]

end Udp2raw.ConvManager
