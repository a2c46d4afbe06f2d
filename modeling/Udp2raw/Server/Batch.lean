import Udp2raw.Server.Assertions

/-!
# The events of one wait

One `epoll_wait` returns many events, and a handler may close descriptors that later events of
the same batch still name. The loop takes an event of a closed descriptor for its own end: it
returns, where every other outdated event of the program is passed over. The theorems here say
when this happens and what else may end a batch.
-/
namespace Udp2raw

open Proc ServerProc Server

variable {v : IpVersion} {options : Options v} {m m' : Machine v} {s s' : Server options}
  {state : Machine v × Server options} {standing : Standing} {answers : Nat → Answer v}
  {filterPort : UInt16}

/-! ### Descriptors that an event names -/

namespace Descriptors

/-- A number that was given out stands for an open descriptor, if it is still known. -/
structure Live (descriptors : Descriptors) (fd64 : Nat) : Prop where
  /-- It was given out. -/
  given : fd64 < descriptors.counter
  /-- Its descriptor is open. -/
  opened : ∀ fd, descriptors.fd64ToFd.lookup fd64 = some fd → fd ∈ descriptors.opened

variable {descriptors next : Descriptors} {fd64 fd : Nat} {p : Ptr}

/-- A new descriptor is none of the others. -/
theorem Live.registered (live : descriptors.Live fd64) (fd : Nat) (p : Ptr) :
    (descriptors.registered fd p).Live fd64 where
  given := Nat.lt_succ_of_lt live.given
  opened other known := by
    rw [lookup_registered, if_neg (Nat.ne_of_lt live.given)] at known
    obtain ⟨serial, stored⟩ := Table.mem_iff_lookup.mp (live.opened other known)
    rw [Table.mem_iff_lookup, opened_registered]
    split
    · exact ⟨_, rfl⟩
    · exact ⟨serial, stored⟩

/-- A descriptor that was opened and closed again is none of the others. -/
theorem Live.lost (live : descriptors.Live fd64) (unused : fd ∉ descriptors.opened) (p : Ptr) :
    ((descriptors.registered fd p).sockClose fd).Live fd64 where
  given := Nat.lt_succ_of_lt live.given
  opened other known := by
    have old : descriptors.fd64ToFd.lookup fd64 = some other := by
      have stays : (descriptors.registered fd p).fd64ToFd.lookup fd64 = some other := known
      rwa [lookup_registered, if_neg (Nat.ne_of_lt live.given)] at stays
    have different : other ≠ fd := by
      rintro rfl
      exact unused (live.opened other old)
    exact AList.mem_erase.mpr ⟨different, ((live.registered fd p).opened other known)⟩

/-- A closing leaves the other descriptors open. -/
theorem Closed.live {gone : Nat → Prop} (closed : Closed gone descriptors next)
    (live : descriptors.Live fd64) : next.Live fd64 where
  given := by
    rw [closed.counter]
    exact live.given
  opened fd known := by
    have rest : ¬gone fd64 := fun lost =>
      closed.lost fd64 lost (Table.mem_iff_lookup.mpr ⟨fd, known⟩)
    have old := (closed.fd64ToFd fd64 rest).symm.trans known
    rw [Table.mem_iff_lookup, closed.opened fd64 fd rest old, ← Table.mem_iff_lookup]
    exact live.opened fd old

end Descriptors

/-- A step leaves the descriptors of known numbers open. -/
theorem Step.live {one two : Stage options} (step : Step one two) (custody : one.server.Custody)
    {fd64 : Nat} (live : one.server.descriptors.Live fd64) :
    two.server.descriptors.Live fd64 := by
  cases step with
  | promoted => exact live.registered _ _
  | openedConv => exact live.registered _ _
  | lostSocket _ unused => exact live.lost unused.1 _
  | evicted found contents erased =>
    obtain ⟨-, conv, fd64, -, -, gone⟩ := custody.evicted found contents erased
    exact gone.live live
  | erased _ erased =>
    cases erase_iff.mp erased with
    | waiting => exact live
    | ready _ _ _ _ _ _ _ _ close cleared => exact (erased_closed custody close cleared).live live
  | _ => exact live

/-- An event leaves the descriptors of known numbers open. -/
theorem serverOnEvent_live {event : EpollEvent} {going : Bool} (intact : Intact m s)
    (cursor : s.Cursor) (returned : Returns (serverOnEvent standing event) (m, s) going (m', s'))
    {fd64 : Nat} (live : s.descriptors.Live fd64) : s'.descriptors.Live fd64 := by
  obtain ⟨m1, captured, steps, -⟩ := serverOnEvent_steps cursor returned
  have kept : s'.Tables ∧ s'.Custody ∧ s'.descriptors.Live fd64 := by
    refine Steps.keeps
      (fun _ server => server.Tables ∧ server.Custody ∧ server.descriptors.Live fd64)
      ?_ steps ⟨intact.tables, intact.custody, live⟩
    rintro one two step ⟨tables, custody, live⟩
    exact ⟨tables.step step, custody.step step tables, step.live custody live⟩
  exact kept.2.2

namespace EpollEvent

variable (event : EpollEvent)

/-- The event names a descriptor that is registered. -/
def Registered (standing : Standing) (server : Server options) : Prop :=
  event.data = standing.timerFd ∨ event.data = standing.rawRecvFd ∨
    some event.data = standing.fifoFd ∨
    ∃ fd, server.descriptors.fd64ToFd.lookup event.data = some fd ∧ fd ∈ server.descriptors.opened

/-- The event names a number that is not known any more. -/
def Outdated (server : Server options) : Prop :=
  2 ^ 32 - 1 < event.data ∧ server.descriptors.exist event.data = false

end EpollEvent

/-- An event of a descriptor of the loop, or of one whose number is live. -/
def EpollEvent.Expected (event : EpollEvent) (standing : Standing) (server : Server options) :
    Prop :=
  event.data = standing.timerFd ∨ event.data = standing.rawRecvFd ∨
    some event.data = standing.fifoFd ∨
    2 ^ 32 - 1 < event.data ∧ server.descriptors.Live event.data

/-- A registered event is expected. -/
theorem EpollEvent.Registered.expected {event : EpollEvent} (intact : Intact m s)
    (registered : event.Registered standing s) : event.Expected standing s := by
  refine registered.imp_right fun rest => rest.imp_right fun rest => rest.imp_right ?_
  rintro ⟨fd, known, opened⟩
  obtain ⟨large, given⟩ := intact.custody.sound.numbered event.data
    (Table.mem_iff_lookup.mpr ⟨fd, known⟩)
  refine ⟨large, given, fun other same => ?_⟩
  obtain rfl := Option.some.inj (known.symm.trans same)
  exact opened

/-- An event of the loop is no event of a number. -/
theorem Standing.small_of (standing : Standing) {data : Nat} (large : 2 ^ 32 - 1 < data) :
    data ≠ standing.timerFd ∧ data ≠ standing.rawRecvFd ∧ some data ≠ standing.fifoFd := by
  refine ⟨fun same => ?_, fun same => ?_, fun same => ?_⟩
  · exact absurd large (Nat.not_lt.mpr (standing.small data (.inl same)))
  · exact absurd large (Nat.not_lt.mpr (standing.small data (.inr (.inl same))))
  · exact absurd large (Nat.not_lt.mpr (standing.small data (.inr (.inr same))))

/-! ### One event -/

/-- The loop ends at an outdated event, and at no other. -/
theorem serverOnEvent_outdated {event : EpollEvent} :
    Returns (serverOnEvent standing event) (m, s) false (m', s') ↔
      event.Outdated s ∧ (m, s) = (m', s') := by
  constructor
  · intro returned
    unfold serverOnEvent at returned
    have goes {program : ServerProc options Unit}
        (ended : Returns (program >>= fun _ => pure true) (m, s) false (m', s')) : False := by
      simp only [Returns.bind_iff, Returns.pure_iff] at ended
      obtain ⟨_, _, -, impossible, -⟩ := ended
      contradiction
    split_ifs at returned with timer raw fifo large
    · exact (goes returned).elim
    · exact (goes returned).elim
    · exact (goes returned).elim
    · simp only [Returns.bind_iff, theServer_iff] at returned
      obtain ⟨_, _, ⟨rfl, rfl⟩, returned⟩ := returned
      split at returned
      · rename_i gone
        exact ⟨⟨large, gone⟩, (Returns.pure_iff.mp returned).2⟩
      · exact (goes returned).elim
    · exact absurd returned Returns.throw_iff
  · rintro ⟨⟨large, gone⟩, same⟩
    obtain ⟨timer, raw, fifo⟩ := standing.small_of large
    rw [serverOnEvent, if_neg timer, if_neg raw, if_neg fifo, if_pos large, Returns.bind_iff]
    refine ⟨s, (m, s), theServer_iff.mpr ⟨rfl, rfl⟩, ?_⟩
    rw [if_pos gone]
    exact Returns.pure_iff.mpr ⟨rfl, same⟩

/-- An expected event ends the loop at once only if it is outdated, and stops the server only for
one of its reasons. -/
theorem serverOnEvent_expected {event : EpollEvent} (intact : Intact m s) (cursor : s.Cursor)
    (empty : m.packetBufCnt = 0) (expected : event.Expected standing s) :
    Stops (serverOnEvent standing event) (m, s) (EventFault standing event m s) := by
  apply serverOnEvent_stops intact cursor empty
  intro fd known
  have large := (intact.custody.sound.numbered event.data
    (Table.mem_iff_lookup.mpr ⟨fd, known⟩)).1
  obtain ⟨timer, raw, fifo⟩ := standing.small_of large
  obtain same | same | same | ⟨-, live⟩ := expected
  · exact absurd same timer
  · exact absurd same raw
  · exact absurd same fifo
  · exact live.opened fd known

/-- An expected event stays expected while others are handled. -/
theorem serverOnEvent_expects {event other : EpollEvent} {going : Bool} (intact : Intact m s)
    (cursor : s.Cursor) (expected : event.Expected standing s)
    (returned : Returns (serverOnEvent standing other) (m, s) going (m', s')) :
    event.Expected standing s' := by
  refine expected.imp_right fun rest => rest.imp_right fun rest => rest.imp_right ?_
  exact fun ⟨large, live⟩ => ⟨large, serverOnEvent_live intact cursor returned live⟩

/-! ### A batch -/

/-- A later event of the batch names a number that the earlier ones closed. -/
def ClosesNamed (standing : Standing) (events : List EpollEvent)
    (state : Machine v × Server options) : Prop :=
  ∃ before event rest after, events = before ++ event :: rest ∧
    Returns (serverEventLoop standing before) state true after ∧ event.Outdated after.2

/-- The server may stop at an event of the batch, after the earlier ones. -/
def MayStop (standing : Standing) (events : List EpollEvent) (state : Machine v × Server options)
    (fault : Fault) : Prop :=
  ∃ before event rest after, events = before ++ event :: rest ∧
    Returns (serverEventLoop standing before) state true after ∧
    EventFault standing event after.1 after.2 fault

section Loop

variable {event : EpollEvent} {events : List EpollEvent} {next after : Machine v × Server options}

/-- The loop goes on after an event that does not end it. -/
theorem serverEventLoop_cons {going : Bool}
    (handled : Returns (serverOnEvent standing event) state true next)
    (rest : Returns (serverEventLoop standing events) next going after) :
    Returns (serverEventLoop standing (event :: events)) state going after := by
  rw [serverEventLoop, Returns.bind_iff]
  exact ⟨true, next, handled, rest⟩

/-- What a batch closes after its first event. -/
theorem ClosesNamed.cons (handled : Returns (serverOnEvent standing event) state true next)
    (closes : ClosesNamed standing events next) :
    ClosesNamed standing (event :: events) state := by
  obtain ⟨before, other, rest, after, rfl, returned, outdated⟩ := closes
  exact ⟨event :: before, other, rest, after, rfl, serverEventLoop_cons handled returned, outdated⟩

/-- Where a batch may stop after its first event. -/
theorem MayStop.cons {fault : Fault}
    (handled : Returns (serverOnEvent standing event) state true next)
    (stops : MayStop standing events next fault) :
    MayStop standing (event :: events) state fault := by
  obtain ⟨before, other, rest, after, rfl, returned, because⟩ := stops
  exact ⟨event :: before, other, rest, after, rfl, serverEventLoop_cons handled returned, because⟩

end Loop

/-- The loop returns exactly at an event that the earlier ones of its batch made outdated. -/
theorem serverEventLoop_returns {events : List EpollEvent} :
    (∃ after, Returns (serverEventLoop standing events) state false after) ↔
      ClosesNamed standing events state := by
  induction events generalizing state with
  | nil =>
    constructor
    · rintro ⟨after, returned⟩
      have impossible := (Returns.pure_iff.mp returned).1
      contradiction
    · rintro ⟨before, event, rest, after, split, -⟩
      simp at split
  | cons event events ih =>
    constructor
    · rintro ⟨after, returned⟩
      rw [serverEventLoop, Returns.bind_iff] at returned
      obtain ⟨going, next, handled, returned⟩ := returned
      cases going with
      | true => exact .cons handled (ih.mp ⟨after, returned⟩)
      | false =>
        obtain ⟨outdated, -⟩ := serverOnEvent_outdated.mp handled
        exact ⟨[], event, events, state, rfl, Returns.pure_iff.mpr ⟨rfl, rfl⟩, outdated⟩
    · rintro ⟨before, other, rest, after, split, returned, outdated⟩
      cases before with
      | nil =>
        obtain ⟨rfl, rfl⟩ := List.cons.inj split
        obtain ⟨-, rfl⟩ := Returns.pure_iff.mp returned
        refine ⟨state, ?_⟩
        rw [serverEventLoop, Returns.bind_iff]
        exact ⟨false, state, serverOnEvent_outdated.mpr ⟨outdated, rfl⟩,
          Returns.pure_iff.mpr ⟨rfl, rfl⟩⟩
      | cons first before =>
        obtain ⟨rfl, rfl⟩ := List.cons.inj split
        rw [serverEventLoop, Returns.bind_iff] at returned
        obtain ⟨going, next, handled, returned⟩ := returned
        cases going with
        | false =>
          have impossible := (Returns.pure_iff.mp returned).1
          contradiction
        | true =>
          obtain ⟨final, rest⟩ := ih.mpr ⟨before, other, rest, after, rfl, returned, outdated⟩
          exact ⟨final, serverEventLoop_cons handled rest⟩

/-- A batch of expected events stops the server only where one of them may. -/
theorem serverEventLoop_stops {events : List EpollEvent}
    (reachable : Reachable options standing answers filterPort state)
    (expected : ∀ event ∈ events, event.Expected standing state.2) :
    Stops (serverEventLoop standing events) state (MayStop standing events state) := by
  induction events generalizing state with
  | nil => exact .pure _
  | cons event events ih =>
    obtain ⟨m, s⟩ := state
    rw [serverEventLoop]
    refine .bind ?_ fun going next handled => ?_
    · refine (serverOnEvent_expected reachable.intact reachable.cursor reachable.empty
        (expected event List.mem_cons_self)).weaken fun fault because => ?_
      exact ⟨[], event, events, (m, s), rfl, Returns.pure_iff.mpr ⟨rfl, rfl⟩, because⟩
    · cases going with
      | false => exact .pure _
      | true =>
        refine (ih (reachable.event handled) fun other inside => ?_).weaken
          fun fault => .cons handled
        exact serverOnEvent_expects reachable.intact reachable.cursor
          (expected other (List.mem_cons_of_mem _ inside)) handled

/-- A batch of events of registered descriptors is handled to its end if no event names a number
that the earlier ones closed, unless the server stops at one of them. If one does, the loop
returns there. -/
theorem Reachable.eventBatch (reachable : Reachable options standing answers filterPort state)
    (events : List EpollEvent) (registered : ∀ event ∈ events, event.Registered standing state.2) :
    ((∃ after, Returns (serverEventLoop standing events) state false after) ↔
      ClosesNamed standing events state) ∧
    (∀ fault, StopsWith (serverEventLoop standing events) state fault →
      MayStop standing events state fault) ∧
    (¬ClosesNamed standing events state → (∀ fault, ¬MayStop standing events state fault) →
      Succeeds (serverEventLoop standing events) state fun going _ => going = true) := by
  have stops := serverEventLoop_stops reachable fun event inside =>
    (registered event inside).expected reachable.intact
  refine ⟨serverEventLoop_returns, stops, fun open_ sure => ?_⟩
  obtain ⟨going, after, returned, -⟩ := (stops.weaken sure).succeeds
  refine .of_returns returned ?_
  cases going with
  | true => rfl
  | false => exact absurd (serverEventLoop_returns.mp ⟨after, returned⟩) open_

/-- The timer of the server, with the timer of its first connection. -/
def staleBatch : List EpollEvent := [ticked, ⟨2 ^ 32 - 1 + 100, none, none⟩]

/-- With one client both timers are registered. -/
theorem staleBatch_registered :
    ∀ event ∈ staleBatch, event.Registered plainStanding (readyFor 7).2 := by
  intro event inside
  simp only [staleBatch, List.mem_cons, List.not_mem_nil, or_false] at inside
  obtain rfl | rfl := inside
  · exact .inl rfl
  · have known : (readyFor 7).2.descriptors.fd64ToFd.lookup (2 ^ 32 - 1 + 100) = some 1 := by
      decide +kernel
    have opened : 1 ∈ (readyFor 7).2.descriptors.opened := by decide +kernel
    exact .inr (.inr (.inr ⟨1, known, opened⟩))

/-- What may become of that batch. -/
theorem eventBatch_stale :
    ((∃ after, Returns (serverEventLoop plainStanding staleBatch) (readyFor 7) false after) ↔
      ClosesNamed plainStanding staleBatch (readyFor 7)) ∧
    (∀ fault, StopsWith (serverEventLoop plainStanding staleBatch) (readyFor 7) fault →
      MayStop plainStanding staleBatch (readyFor 7) fault) ∧
    (¬ClosesNamed plainStanding staleBatch (readyFor 7) →
      (∀ fault, ¬MayStop plainStanding staleBatch (readyFor 7) fault) →
      Succeeds (serverEventLoop plainStanding staleBatch) (readyFor 7)
        fun going _ => going = true) :=
  Reachable.eventBatch readyForSeven_reachable staleBatch staleBatch_registered

/-- A silent client: the first event erases its connection, and at the second one the loop
returns. -/
theorem serverEventLoop_stale :
    Reachable droppingOptions plainStanding clockAnswers 4096 (readyFor 7) ∧
      (∀ event ∈ staleBatch, event.Registered plainStanding (readyFor 7).2) ∧
      ∃ after, Returns (serverEventLoop plainStanding staleBatch) (readyFor 7) false after := by
  refine ⟨readyForSeven_reachable, staleBatch_registered, _, returns_of_resultOf ?_⟩
  decide +kernel

end Udp2raw
