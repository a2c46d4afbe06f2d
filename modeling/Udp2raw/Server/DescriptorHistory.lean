import Udp2raw.Server.Descriptors

/-!
# Histories of descriptor numbers

`fd_manager_t` counts its numbers upwards and never back. Over a whole history of openings and
closings no number is given out twice, whatever the kernel does with its descriptors, so an
event that was queued for a closed descriptor finds nothing.
-/
namespace Udp2raw.Descriptors

/-- One use of `fd_manager_t`, with the numbers it gave out so far, the latest one first. -/
inductive Use : List Nat × Descriptors → List Nat × Descriptors → Prop where
  /-- `create` of a descriptor that is not registered. -/
  | create {issued : List Nat} {before after : Descriptors} {fd fd64 : Nat}
      (unregistered : fd ∉ before.fdToFd64) (created : before.create fd = .ok (fd64, after)) :
      Use (issued, before) (fd64 :: issued, after)
  /-- `fd64_close` of a known number. -/
  | close {issued : List Nat} {before after : Descriptors} {fd64 : Nat}
      (known : fd64 ∈ before.fd64ToFd) (closed : before.fd64Close fd64 = .ok after) :
      Use (issued, before) (issued, after)
  /-- `get_info` of a known number, which makes an entry where there is none. -/
  | info {issued : List Nat} {before after : Descriptors} {fd64 : Nat} {p : Ptr}
      (known : fd64 ∈ before.fd64ToFd) (stored : before.setInfo fd64 p = .ok after) :
      Use (issued, before) (issued, after)
  /-- The kernel opens a descriptor. -/
  | opened {issued : List Nat} {before : Descriptors} (fd : Nat) :
      Use (issued, before) (issued, before.sockOpen fd)

/-- A history of uses. -/
abbrev History := Relation.ReflTransGen Use

/-- What the numbers given out so far have to do with the tables. -/
structure Recorded (issued : List Nat) (descriptors : Descriptors) : Prop where
  /-- The two tables are inverse to each other. -/
  inverse : descriptors.fd64ToFd.Inverse descriptors.fdToFd64
  /-- Only known numbers have an owner. -/
  info : ∀ fd64 ∈ descriptors.fdInfo, fd64 ∈ descriptors.fd64ToFd
  /-- Known numbers were given out. -/
  known : ∀ fd64 ∈ descriptors.fd64ToFd, fd64 ∈ issued
  /-- Numbers are above those of the kernel and below the next one. -/
  range : ∀ fd64 ∈ issued, 2 ^ 32 - 1 < fd64 ∧ fd64 < descriptors.counter
  /-- No number was given out twice. -/
  nodup : issued.Nodup
  /-- The counter counts them. -/
  counter : descriptors.counter = 2 ^ 32 - 1 + 100 + issued.length

variable {issued later : List Nat} {before after : Descriptors} {fd64 fd : Nat}

/-- A new manager gave out nothing. -/
theorem recorded_new : Recorded [] new where
  inverse := .empty
  info := by simp [new]
  known := by simp [new]
  range := by simp
  nodup := List.nodup_nil
  counter := rfl

/-- What `create` does with a descriptor that is not registered. -/
theorem create_iff : before.create fd = .ok (fd64, after) ↔
    fd ∉ before.fdToFd64 ∧ fd64 = before.counter ∧ after = { before with
      counter := before.counter + 1
      fdToFd64 := before.fdToFd64.insert fd before.counter
      fd64ToFd := before.fd64ToFd.insert before.counter fd } := by
  simp only [create, exec_bind_iff, assert_iff, exec_pure_iff, fdExist, Prod.mk.injEq,
    Bool.not_eq_true', decide_eq_false_iff_not]
  constructor
  · rintro ⟨-, unregistered, rfl, rfl⟩
    exact ⟨unregistered, rfl, rfl⟩
  · rintro ⟨unregistered, rfl, rfl⟩
    exact ⟨⟨⟩, unregistered, rfl, rfl⟩

/-- What `get_info` does with a known number. -/
theorem setInfo_iff {p : Ptr} : before.setInfo fd64 p = .ok after ↔
    fd64 ∈ before.fd64ToFd ∧ after = { before with fdInfo := before.fdInfo.insert fd64 p } := by
  simp only [setInfo, exec_bind_iff, assert_iff, exec_pure_iff, exist, decide_eq_true_eq]
  constructor
  · rintro ⟨-, known, rfl⟩
    exact ⟨known, rfl⟩
  · rintro ⟨known, rfl⟩
    exact ⟨⟨⟩, known, rfl⟩

/-- The next number was not given out yet. -/
theorem Recorded.fresh (recorded : Recorded issued before) : before.counter ∉ issued :=
  fun inside => Nat.lt_irrefl _ (recorded.range _ inside).2

/-- A new number. -/
theorem Recorded.create (recorded : Recorded issued before) (unregistered : fd ∉ before.fdToFd64)
    (created : before.create fd = .ok (fd64, after)) : Recorded (fd64 :: issued) after := by
  obtain ⟨-, rfl, rfl⟩ := create_iff.mp created
  have unknown : before.counter ∉ before.fd64ToFd := fun known =>
    recorded.fresh (recorded.known _ known)
  have start := recorded.counter
  constructor
  case inverse => exact recorded.inverse.insert unknown unregistered
  case info =>
    intro other owned
    exact (AList.mem_insert _).mpr (.inr (recorded.info other owned))
  case known =>
    intro other known
    obtain rfl | known := (AList.mem_insert _).mp known
    · exact List.mem_cons_self
    · exact List.mem_cons_of_mem _ (recorded.known other known)
  case range =>
    intro other inside
    show _ ∧ other < before.counter + 1
    obtain rfl | inside := List.mem_cons.mp inside
    · omega
    · have old := recorded.range other inside
      omega
  case nodup => exact List.nodup_cons.mpr ⟨recorded.fresh, recorded.nodup⟩
  case counter =>
    show before.counter + 1 = _
    rw [start, List.length_cons]
    omega

/-- A closed number. -/
theorem Recorded.close (recorded : Recorded issued before)
    (closed : before.fd64Close fd64 = .ok after) : Recorded issued after := by
  obtain ⟨fd, known, rfl⟩ := fd64Close_iff.mp closed
  constructor
  case inverse => exact recorded.inverse.erase known
  case info =>
    intro other owned
    obtain ⟨apart, owned⟩ := AList.mem_erase.mp owned
    exact AList.mem_erase.mpr ⟨apart, recorded.info other owned⟩
  case known => exact fun other known => recorded.known other (AList.mem_erase.mp known).2
  case range => exact recorded.range
  case nodup => exact recorded.nodup
  case counter => exact recorded.counter

/-- A number with an owner. -/
theorem Recorded.setInfo {p : Ptr} (recorded : Recorded issued before)
    (stored : before.setInfo fd64 p = .ok after) : Recorded issued after := by
  obtain ⟨known, rfl⟩ := setInfo_iff.mp stored
  refine ⟨recorded.inverse, fun other owned => ?_, recorded.known, recorded.range,
    recorded.nodup, recorded.counter⟩
  obtain rfl | owned := (AList.mem_insert _).mp owned
  · exact known
  · exact recorded.info other owned

/-- Every use keeps the record. -/
theorem Recorded.use (recorded : Recorded issued before)
    (use : Use (issued, before) (later, after)) : Recorded later after := by
  cases use with
  | create unregistered created => exact recorded.create unregistered created
  | close _ closed => exact recorded.close closed
  | info _ stored => exact recorded.setInfo stored
  | opened fd =>
    exact ⟨recorded.inverse, recorded.info, recorded.known, recorded.range, recorded.nodup,
      recorded.counter⟩

/-- Every history keeps the record. -/
theorem Recorded.history {start finish : List Nat × Descriptors}
    (recorded : Recorded start.1 start.2) (history : History start finish) :
    Recorded finish.1 finish.2 := by
  induction history with
  | refl => exact recorded
  | tail _ use ih => exact ih.use use

/-- A number that was given out stands for what it stood for, or for nothing any more. -/
theorem Recorded.lookup_use (recorded : Recorded issued before)
    (use : Use (issued, before) (later, after)) (inside : fd64 ∈ issued) :
    fd64 ∈ later ∧ (after.fd64ToFd.lookup fd64 = before.fd64ToFd.lookup fd64 ∨
      after.fd64ToFd.lookup fd64 = none) := by
  cases use with
  | create unregistered created =>
    obtain ⟨-, rfl, rfl⟩ := create_iff.mp created
    have apart : fd64 ≠ before.counter := by
      rintro rfl
      exact recorded.fresh inside
    refine ⟨List.mem_cons_of_mem _ inside, .inl ?_⟩
    exact (Table.lookup_insert _ _ _ _).trans (if_neg apart)
  | @close _ _ _ gone _ closed =>
    obtain ⟨fd, -, rfl⟩ := fd64Close_iff.mp closed
    refine ⟨inside, ?_⟩
    show (before.fd64ToFd.erase gone).lookup fd64 = _ ∨ (before.fd64ToFd.erase gone).lookup fd64 = _
    rw [Table.lookup_erase]
    by_cases same : fd64 = gone
    · exact .inr (if_pos same)
    · exact .inl (if_neg same)
  | info _ stored =>
    obtain ⟨-, rfl⟩ := setInfo_iff.mp stored
    exact ⟨inside, .inl rfl⟩
  | opened fd => exact ⟨inside, .inl rfl⟩

/-- The same over a history: a number never comes to stand for another descriptor. -/
theorem Recorded.lookup_history {start finish : List Nat × Descriptors}
    (recorded : Recorded start.1 start.2) (history : History start finish)
    (inside : fd64 ∈ start.1) :
    fd64 ∈ finish.1 ∧ (finish.2.fd64ToFd.lookup fd64 = start.2.fd64ToFd.lookup fd64 ∨
      finish.2.fd64ToFd.lookup fd64 = none) := by
  induction history with
  | refl => exact ⟨inside, .inl rfl⟩
  | tail earlier use ih =>
    obtain ⟨still, before⟩ := ih
    obtain ⟨later, after⟩ := (recorded.history earlier).lookup_use use still
    refine ⟨later, ?_⟩
    obtain same | gone := after
    · rw [same]
      exact before
    · exact .inr gone

/-- `fd64_close` makes its number unknown and no other. -/
theorem fd64Close_forgets (closed : before.fd64Close fd64 = .ok after) :
    after.exist fd64 = false ∧
      ∀ other, other ≠ fd64 → after.fd64ToFd.lookup other = before.fd64ToFd.lookup other := by
  obtain ⟨fd, -, rfl⟩ := fd64Close_iff.mp closed
  refine ⟨decide_eq_false fun known => ?_, fun other apart => ?_⟩
  · exact (AList.mem_erase.mp known).1 rfl
  · exact (Table.lookup_erase _ _ _).trans (if_neg apart)

/-- The uses that the assertions of `fd_manager_t` allow succeed. -/
theorem uses_succeed (descriptors : Descriptors) :
    (∀ fd ∉ descriptors.fdToFd64, ∃ created, descriptors.create fd = .ok created) ∧
      (∀ fd64 ∈ descriptors.fd64ToFd, ∃ closed, descriptors.fd64Close fd64 = .ok closed) ∧
      ∀ fd64 ∈ descriptors.fd64ToFd, ∀ p, ∃ stored, descriptors.setInfo fd64 p = .ok stored := by
  refine ⟨fun fd unregistered => ?_, fun fd64 known => ?_, fun fd64 known p => ?_⟩
  · exact ⟨⟨_, _⟩, create_iff.mpr ⟨unregistered, rfl, rfl⟩⟩
  · obtain ⟨fd, stored⟩ := Table.mem_iff_lookup.mp known
    exact ⟨_, fd64Close_iff.mpr ⟨fd, stored, rfl⟩⟩
  · exact ⟨_, setInfo_iff.mpr ⟨known, rfl⟩⟩

/-- After every history of uses the two tables are inverse to each other, only known numbers
have an owner, and the numbers given out are all different, above those of the kernel, and no
larger than a `u64_t`. What a number stands for never changes but by its closing, which makes it
unknown and no other, and a closed number stays unknown. -/
theorem history_numbers (issued later : List Nat) (before after : Descriptors)
    (history : History ([], new) (issued, before))
    (continued : History (issued, before) (later, after)) (few : later.length < 2 ^ 63) :
    (∀ fd64 fd, after.fd64ToFd.lookup fd64 = some fd ↔ after.fdToFd64.lookup fd = some fd64) ∧
    (∀ fd64 ∈ after.fdInfo, after.exist fd64 = true) ∧
    later.Nodup ∧ (∀ fd64 ∈ later, 2 ^ 32 - 1 < fd64 ∧ fd64 < 2 ^ 64) ∧
    (∀ fd64 ∈ issued, ∀ fd, before.fd64ToFd.lookup fd64 = some fd →
      after.fd64ToFd.lookup fd64 = some fd ∨ after.exist fd64 = false) ∧
    (∀ fd64 ∈ issued, before.exist fd64 = false → after.exist fd64 = false) ∧
    ∀ fd64 next, after.fd64Close fd64 = .ok next → next.exist fd64 = false ∧
      ∀ other, other ≠ fd64 → next.fd64ToFd.lookup other = after.fd64ToFd.lookup other := by
  have first : Recorded issued before := recorded_new.history history
  have last : Recorded later after := first.history continued
  have kept (fd64 : Nat) (inside : fd64 ∈ issued) :
      after.fd64ToFd.lookup fd64 = before.fd64ToFd.lookup fd64 ∨
        after.fd64ToFd.lookup fd64 = none := (first.lookup_history continued inside).2
  refine ⟨last.inverse, fun fd64 owned => decide_eq_true (last.info fd64 owned), last.nodup,
    fun fd64 inside => ?_, fun fd64 inside fd stands => ?_, fun fd64 inside gone => ?_,
    fun _ _ closed => fd64Close_forgets closed⟩
  · have range := last.range fd64 inside
    have counter := last.counter
    omega
  · obtain same | gone := kept fd64 inside
    · exact .inl (same.trans stands)
    · exact .inr (decide_eq_false (AList.lookup_eq_none.mp gone))
  · have unknown := AList.lookup_eq_none.mpr (of_decide_eq_false gone)
    obtain same | closed := kept fd64 inside
    · exact decide_eq_false (AList.lookup_eq_none.mp (same.trans unknown))
    · exact decide_eq_false (AList.lookup_eq_none.mp closed)

/-- Descriptor 5 is registered, closed, opened again by the kernel and registered again: the
first number is not the second one, and finds nothing. -/
theorem history_numbers_reopened :
    ∃ before after : Descriptors, History ([], new) ([4294967395], before) ∧
      History ([4294967395], before) ([4294967396, 4294967395], after) ∧
      after.exist 4294967395 = false ∧ after.exist 4294967396 = true := by
  let first : Descriptors := { new with
    counter := 4294967396
    fdToFd64 := new.fdToFd64.insert 5 4294967395
    fd64ToFd := new.fd64ToFd.insert 4294967395 5 }
  let second : Descriptors := { first with
    fd64ToFd := first.fd64ToFd.erase 4294967395
    fdToFd64 := first.fdToFd64.erase 5
    fdInfo := first.fdInfo.erase 4294967395 }.sockClose 5
  let third : Descriptors := { second with
    counter := 4294967397
    fdToFd64 := second.fdToFd64.insert 5 4294967396
    fd64ToFd := second.fd64ToFd.insert 4294967396 5 }
  have opened : Use ([], new) ([4294967395], first) :=
    .create (by decide) (create_iff.mpr ⟨by decide, rfl, rfl⟩)
  have closing : first.fd64Close 4294967395 = .ok second :=
    fd64Close_iff.mpr ⟨5, by decide, rfl⟩
  have closed : Use ([4294967395], first) ([4294967395], second) := .close (by decide) closing
  have again : Use ([4294967395], second) ([4294967396, 4294967395], third) :=
    .create (by decide) (create_iff.mpr ⟨by decide, rfl, rfl⟩)
  obtain ⟨-, -, -, -, -, stays, -⟩ := history_numbers [4294967395] [4294967396, 4294967395]
    second third (.tail (.single opened) closed) (.single again) (by decide)
  exact ⟨second, third, .tail (.single opened) closed, .single again,
    stays 4294967395 (by decide) (by decide), by decide⟩

end Udp2raw.Descriptors
