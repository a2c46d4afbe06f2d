import Udp2raw.Server.Erasing

/-!
# The event loop as steps

The timers and the datagrams of the server as sequences of steps, and with them every event
and every batch of events. A reachable state of the server is one that a run of its event
loop passes through.
-/
namespace Udp2raw

open Proc ServerProc Server

variable {v : IpVersion} {options : Options v} {m m' : Machine v} {s s' : Server options}
  {inbox : List Pending}

/-! ### Timers -/

/-- The sweep of the conversations of a connection closes them one by one. -/
theorem evicted_steps {p : Ptr} {conn : ServerConn options} {blob : Blob Nat}
    {state final : ConvManager Nat × Descriptors} (found : s.heap p = some conn)
    (allocated : conn.blob = some blob)
    (same : state = (blob.convManager, s.descriptors))
    (swept : Relation.ReflTransGen (ConvManager.Erased serverClearFunction) state final) :
    Steps ⟨m, s, inbox⟩
      ⟨m, (s.withDescriptors final.2).put p (conn.withConvs blob final.1), inbox⟩ := by
  subst same
  induction swept with
  | refl =>
    have still : conn.withConvs blob blob.convManager = conn := by
      rw [ConnInfo.withConvs, ← allocated]
    rw [still]
    have unchanged : s.withDescriptors s.descriptors = s := rfl
    rw [unchanged, put_self found]
  | @tail middle final _ erased ih =>
    refine ih.tail ?_
    have stored : ((s.withDescriptors middle.2).put p (conn.withConvs blob middle.1)).heap p =
        some (conn.withConvs blob middle.1) := heap_put
    have step : Step ⟨m, _, inbox⟩ ⟨m, _, inbox⟩ := .evicted stored rfl erased
    have put : (((s.withDescriptors middle.2).put p (conn.withConvs blob middle.1)).withDescriptors
        final.2).put p (conn.withConvs blob final.1) =
        (s.withDescriptors final.2).put p (conn.withConvs blob final.1) := by
      simp [Server.put, withDescriptors]
    rw [← put]
    exact step

/-- A connection's timer closes idle conversations and may send a heartbeat. -/
theorem serverOnTimerMulti_steps {p : Ptr} {value : Unit}
    (returned : Returns (serverOnTimerMulti p) (m, s) value (m', s')) :
    Steps ⟨m, s, inbox⟩ ⟨m', s', inbox⟩ := by
  simp only [serverOnTimerMulti, Returns.bind_iff, deref_iff, call_iff, check_iff, run_iff,
    theBlob_iff, theServer_iff, update_iff, store_iff] at returned
  obtain ⟨conn, _, ⟨found, rfl⟩, _, ⟨_, _⟩, ⟨⟨-, rfl⟩, rfl⟩, blob, _, ⟨allocated, rfl⟩, _, _,
    ⟨rfl, rfl⟩, ⟨convs, descriptors⟩, ⟨m1, _⟩, ⟨cleared, rfl⟩, _, _, rfl, _, _, rfl, now,
    ⟨m2, _⟩, ⟨timed, rfl⟩, returned⟩ := returned
  obtain ⟨ran, lastClearTime, erased⟩ := ConvManager.clearInactive_erased cleared
  have clock : m.now ≤ m2.now := (ran.trans (getCurrentTime_ran timed).1).now
  have same : blob.convManager.SameConvs { blob.convManager with lastClearTime } :=
    ⟨rfl, rfl, fun _ => Iff.rfl⟩
  have early (before : blob.convManager.lru.NotAfter m.now) :
      blob.convManager.lru.NotAfter m2.now := before.mono clock
  obtain ⟨like, exchanged⟩ := withConvs_exchanged (v := v) allocated same early
  have noted := Step.alone inbox ⟨found, like, .inl (.refl _)⟩ exchanged
    (ran.trans (getCurrentTime_ran timed).1).went
  have stored : (s.put p (conn.withConvs blob { blob.convManager with lastClearTime })).heap p =
      some (conn.withConvs blob { blob.convManager with lastClearTime }) := heap_put
  have closed : Steps _ ⟨m2, _, inbox⟩ := evicted_steps stored rfl rfl erased
  have put : ((s.put p
      (conn.withConvs blob { blob.convManager with lastClearTime })).withDescriptors
        descriptors).put p (conn.withConvs blob convs) =
      (s.withDescriptors descriptors).put p (conn.withConvs blob convs) := by
    simp [Server.put, withDescriptors]
  have swept : Steps ⟨m, s, inbox⟩
      ⟨m2, (s.withDescriptors descriptors).put p (conn.withConvs blob convs), inbox⟩ := by
    rw [← put]
    exact .head noted closed
  split at returned
  · obtain ⟨-, same⟩ := Returns.pure_iff.mp returned
    obtain ⟨rfl, rfl⟩ := Prod.mk.inj same
    exact swept
  · simp only [Returns.bind_iff, call_iff, store_iff] at returned
    obtain ⟨sent, ⟨m3, _⟩, ⟨three, rfl⟩, time, ⟨m4, _⟩, ⟨four, rfl⟩, final⟩ := returned
    obtain ⟨rfl, rfl⟩ := Prod.mk.inj final
    obtain ⟨old, data, events, had, kept, shape, sentRan⟩ := sendHeartbeat_ran three
    have later := sentRan.trans (getCurrentTime_ran four).1
    rw [List.append_nil] at later
    have timedKept : ((conn.withConvs blob convs).numbered old).Kept
        { sent with lastHbSentTime := time } :=
      ⟨kept.state, kept.myId, kept.oppsiteId, kept.timerFd64, kept.oppsiteConstId, kept.blob,
        kept.peer, kept.lastStateTime⟩
    exact swept.tail (.alone inbox
      ⟨heap_put, ConnInfo.Kept.like_numbered had timedKept later.now, .inl timedKept.peer⟩
      (.heartbeat (ConnInfo.Kept.numbered had timedKept) shape) later.went)

/-! ### Datagrams -/

/-- A datagram of a conversation's socket is sent to the client or dropped. -/
theorem serverOnUdpRecv_steps {p : Ptr} {fd64 : Nat} {received : Option Bytes} {value : Unit}
    (returned : Returns (serverOnUdpRecv p fd64 received) (m, s) value (m', s')) :
    Steps ⟨m, s, inbox⟩ ⟨m', s', inbox⟩ := by
  simp only [serverOnUdpRecv, Returns.bind_iff, deref_iff] at returned
  obtain ⟨conn, _, ⟨found, rfl⟩, returned⟩ := returned
  split at returned
  · exact absurd returned Returns.throw_iff
  rename_i ready
  rw [ne_eq, not_not] at ready
  simp only [Returns.bind_iff, run_iff, theBlob_iff, call_iff, check_iff, theServer_iff,
    toFd_iff] at returned
  obtain ⟨blob, _, ⟨allocated, rfl⟩, _, ⟨_, _⟩, ⟨⟨used, rfl⟩, rfl⟩, _, _, ⟨rfl, rfl⟩, fd, _,
    ⟨known, rfl⟩, returned⟩ := returned
  split at returned
  · rename_i socket bytes opened
    split at returned
    · obtain ⟨-, same⟩ := Returns.pure_iff.mp returned
      obtain ⟨rfl, rfl⟩ := Prod.mk.inj same
      exact .refl
    · simp only [Returns.bind_iff, call_iff, store_iff] at returned
      obtain ⟨_, ⟨m1, _⟩, ⟨one, rfl⟩, sent, ⟨m2, _⟩, ⟨two, rfl⟩, final⟩ := returned
      obtain ⟨rfl, rfl⟩ := Prod.mk.inj final
      obtain ⟨old, events, had, kept, shape, ran⟩ := sendDataSafer_ran two
      obtain ⟨conv, stored⟩ := Table.mem_iff_lookup.mp (of_decide_eq_true used)
      have same : blob.convManager.findConvByData fd64 = conv := by
        rw [ConvManager.findConvByData, stored, Option.getD_some]
      rw [same] at shape ran
      have whole := (record_ran one).trans ran
      exact .single (.forwarded
        ⟨found, ConnInfo.Kept.like_numbered had kept whole.now, .inl kept.peer⟩
        (ConnInfo.Kept.numbered had kept) ready allocated stored ⟨fd, known, opened⟩
        shape whole.went)
  · obtain ⟨-, same⟩ := Returns.pure_iff.mp returned
    obtain ⟨rfl, rfl⟩ := Prod.mk.inj same
    exact .refl

/-! ### Events -/

/-- An event of a known descriptor is handled in steps. -/
theorem serverOnFd64_steps {fd64 : Nat} {bytes : Option Bytes} {value : Unit}
    (returned : Returns (serverOnFd64 fd64 bytes) (m, s) value (m', s')) :
    Steps ⟨m, s, inbox⟩ ⟨m', s', inbox⟩ := by
  simp only [serverOnFd64, Returns.bind_iff, theServer_iff, call_iff, check_iff, run_iff,
    deref_iff] at returned
  obtain ⟨_, _, ⟨rfl, rfl⟩, _, ⟨_, _⟩, ⟨⟨-, rfl⟩, rfl⟩, p, _, ⟨-, rfl⟩, conn, _, ⟨-, rfl⟩,
    returned⟩ := returned
  split at returned
  · simp only [Returns.bind_iff, run_iff, call_iff, check_iff] at returned
    obtain ⟨_, _, ⟨-, rfl⟩, _, ⟨_, _⟩, ⟨⟨-, rfl⟩, rfl⟩, returned⟩ := returned
    exact serverOnTimerMulti_steps returned
  · exact serverOnUdpRecv_steps returned

/-- One event is handled in steps, once a captured packet is in the buffer. -/
theorem serverOnEvent_steps {standing : Standing} {event : EpollEvent} {going : Bool}
    (cursor : s.Cursor) (returned : Returns (serverOnEvent standing event) (m, s) going (m', s')) :
    ∃ m1, Logged [] m m1 ∧ Steps ⟨m1, s, []⟩ ⟨m', s', []⟩ ∧
      (m1 = m ∨ Returns (serverOnRawRecvMulti event.capture) (m, s) () (m', s')) := by
  unfold serverOnEvent at returned
  split at returned
  · simp only [Returns.bind_iff, Returns.pure_iff] at returned
    obtain ⟨_, _, cleared, -, rfl⟩ := returned
    exact ⟨m, .refl m, clearInactive_steps cursor cleared, .inl rfl⟩
  split at returned
  · simp only [Returns.bind_iff, Returns.pure_iff] at returned
    obtain ⟨_, _, received, -, rfl⟩ := returned
    obtain ⟨m1, captured, steps⟩ := serverOnRawRecvMulti_steps received
    exact ⟨m1, captured, steps, .inr received⟩
  split at returned
  · simp only [Returns.bind_iff, Returns.pure_iff] at returned
    obtain ⟨_, _, read, -, rfl⟩ := returned
    unfold onFifo at read
    split at read
    · obtain ⟨-, same⟩ := Returns.pure_iff.mp read
      obtain ⟨rfl, rfl⟩ := Prod.mk.inj same
      exact ⟨m, .refl m, .refl, .inl rfl⟩
    split at read
    · exact absurd read Returns.throw_iff
    · obtain ⟨-, same⟩ := Returns.pure_iff.mp read
      obtain ⟨rfl, rfl⟩ := Prod.mk.inj same
      exact ⟨m, .refl m, .refl, .inl rfl⟩
  split at returned
  · simp only [Returns.bind_iff, theServer_iff] at returned
    obtain ⟨_, _, ⟨rfl, rfl⟩, returned⟩ := returned
    split at returned
    · obtain ⟨-, same⟩ := Returns.pure_iff.mp returned
      obtain ⟨rfl, rfl⟩ := Prod.mk.inj same
      exact ⟨m, .refl m, .refl, .inl rfl⟩
    · simp only [Returns.bind_iff, Returns.pure_iff] at returned
      obtain ⟨_, _, handled, -, rfl⟩ := returned
      exact ⟨m, .refl m, serverOnFd64_steps handled, .inl rfl⟩
  · exact absurd returned Returns.throw_iff

/-- A state that a run of the server passes through between two events. The record may grow
meanwhile, by what the other parties do. -/
inductive Reachable (options : Options v) (standing : Standing) (answers : Nat → Answer v)
    (filterPort : UInt16) : Machine v × Server options → Prop
  /-- The server starts. -/
  | start :
      Reachable options standing answers filterPort (.start .server answers filterPort, .start)
  /-- The record grew. -/
  | logged {machine : Machine v} {server : Server options} (log : Log v) :
      Reachable options standing answers filterPort (machine, server) →
      Reachable options standing answers filterPort ({ machine with log }, server)
  /-- An event was handled. -/
  | event {before after : Machine v × Server options} {event : EpollEvent} {going : Bool} :
      Reachable options standing answers filterPort before →
      Returns (serverOnEvent standing event) before going after →
      Reachable options standing answers filterPort after

/-- What a step keeps is kept by a sequence of steps. -/
theorem Steps.keeps (good : Machine v → Server options → Prop)
    (step : ∀ {one two : Stage options}, Step one two → good one.machine one.server →
      good two.machine two.server)
    {one two : Stage options} (steps : Steps one two) (start : good one.machine one.server) :
    good two.machine two.server := by
  induction steps with
  | refl => exact start
  | tail _ last ih => exact step last ih

/-- The sweep of a reachable server stands on an entry of the table. -/
theorem Reachable.cursor {standing : Standing} {answers : Nat → Answer v} {filterPort : UInt16}
    {state : Machine v × Server options}
    (reachable : Reachable options standing answers filterPort state) : state.2.Cursor := by
  induction reachable with
  | start => exact nofun
  | logged log _ ih => exact ih
  | @event before after event going _ returned ih =>
    obtain ⟨m1, -, steps, -⟩ := serverOnEvent_steps ih returned
    exact Steps.keeps (fun _ server => server.Cursor) Step.cursor steps ih

/-- What holds at the start, whatever the record is, and is kept by every step holds in every
reachable state. -/
theorem Reachable.holds {standing : Standing} {answers : Nat → Answer v} {filterPort : UInt16}
    (good : Machine v → Server options → Prop)
    (start : good (.start .server answers filterPort) .start)
    (logged : ∀ {machine server} log, good machine server → good { machine with log } server)
    (went : ∀ {m m' : Machine v} {s}, Logged [] m m' → good m s → good m' s)
    (step : ∀ {one two : Stage options}, Step one two → good one.machine one.server →
      good two.machine two.server)
    {state : Machine v × Server options}
    (reachable : Reachable options standing answers filterPort state) : good state.1 state.2 := by
  induction reachable with
  | start => exact start
  | logged log _ ih => exact logged log ih
  | event earlier returned ih =>
    obtain ⟨m1, captured, steps, -⟩ := serverOnEvent_steps earlier.cursor returned
    exact Steps.keeps good step steps (went captured ih)

end Udp2raw
