import Udp2raw.Server.Unauthenticated

/-!
# The assertions about connections

`erase`, the sweep, `prepare` and the destructor of a connection assert how its state, its
blob, its timer and its `const_id` belong together. The number a client gives itself comes from
the wire and nobody compares it with zero, so the sweep stops at a client that named itself
zero. Without such a client no assertion about connections fails.
-/
namespace Udp2raw

open Proc ServerProc Server

variable {v : IpVersion} {options : Options v} {m m' : Machine v} {s s' : Server options}

/-- The assertions of `erase`, `clear_inactive0`, `prepare` and `~conn_info_t`. -/
def connAssertions : List String :=
  ["i32_t(ready_num) != -1", "timer_fd64 != 0", "fd_manager.exist(timer_fd64)",
    "oppsite_const_id != 0", "const_id_mp.find(...) != const_id_mp.end()", "blob != 0",
    "timer_fd64 == 0", "blob == 0", "oppsite_const_id == 0", "state == server_ready"]

/-- A captured packet stops a server in order with one assertion at most, which is about a
descriptor. -/
theorem serverOnRawRecvMulti_assertion {received : Option Capture} {text : String}
    (intact : Intact m s) (empty : m.packetBufCnt = 0)
    (stopped : StopsWith (serverOnRawRecvMulti received) (m, s) (.assertion text)) :
    text = "!fd_exist(fd)" := by
  have reasons : Stops (serverOnRawRecvMulti received) (m, s) fun fault =>
      ∀ text, fault = .assertion text → text = "!fd_exist(fd)" := by
    refine serverOnRawRecvMulti_stops intact empty (fun fault system text same => ?_)
      fun _ _ _ _ same => ?_
    · subst same
      cases system
      rfl
    · contradiction
  exact reasons _ stopped text rfl

/-- The sweep goes on unless a ready connection is known by the number zero. -/
theorem clearInactive_goes (intact : Intact m s) (cursor : s.Cursor) (named : 0 ∉ s.constIdMp) :
    Succeeds clearInactive (m, s) fun _ _ => True := by
  apply Stops.succeeds
  refine clearInactive_stops intact cursor fun p conn found ready client => ?_
  have listed := (intact.tables.ready p conn found ready).2
  rw [client] at listed
  exact named (Table.mem_iff_lookup.mpr ⟨p, listed⟩)

/-! ### How a client gets its number -/

/-- An erasure makes no client known. -/
theorem Server.Erases.client {addr : Address v} (erases : s.Erases addr s') {constId : UInt32}
    (known : constId ∈ s'.constIdMp) : constId ∈ s.constIdMp := by
  cases erases with
  | waiting => exact known
  | ready => exact (AList.mem_erase.mp known).2

/-- A client becomes known by a number that a handshake named. -/
theorem Step.client {one two : Stage options} (step : Step one two) {constId : UInt32}
    (known : constId ∈ two.server.constIdMp) :
    constId ∈ one.server.constIdMp ∨
      ∃ id1 id2, HeardHandshake one.machine.log one.machine.self id1 id2 constId := by
  cases step with
  | @promoted _ _ _ _ _ _ _ other _ _ _ _ _ _ _ _ heard =>
    by_cases same : constId = other
    · exact .inr ⟨_, _, same ▸ heard⟩
    · exact .inl ((AList.mem_insert _).mp known |>.resolve_left same)
  | erased _ erased => exact .inl ((erase_iff.mp erased).client known)
  | _ => exact .inl known

/-- What becomes known in a sequence of steps was named before its end. -/
theorem Steps.client {one two : Stage options} (steps : Steps one two) {constId : UInt32}
    (known : constId ∈ two.server.constIdMp) :
    constId ∈ one.server.constIdMp ∨
      ∃ id1 id2, HeardHandshake two.machine.log two.machine.self id1 id2 constId := by
  induction steps with
  | refl => exact .inl known
  | tail _ last ih =>
    obtain ⟨_, went⟩ := last.went
    obtain before | ⟨id1, id2, heard⟩ := last.client known
    · refine (ih before).imp_right fun ⟨id1, id2, heard⟩ => ?_
      exact ⟨id1, id2, went.toLogged.heardHandshake heard⟩
    · exact .inr ⟨id1, id2, went.toLogged.heardHandshake heard⟩

/-- In every run, as long as no ready connection is known by the number zero, no assertion about
connections fails when a packet is received, and the sweep goes on. That number only becomes
known after a handshake that names it. -/
theorem Reachable.assertions {standing : Standing} {answers : Nat → Answer v}
    {filterPort : UInt16} {state : Machine v × Server options}
    (reachable : Reachable options standing answers filterPort state)
    (named : 0 ∉ state.2.constIdMp) :
    (∀ received text, StopsWith (serverOnRawRecvMulti received) state (.assertion text) →
      text ∉ connAssertions) ∧
    (Succeeds clearInactive state fun _ _ => True) ∧
    ∀ event going after, Returns (serverOnEvent standing event) state going after →
      0 ∈ after.2.constIdMp → ∃ id1 id2, HeardHandshake after.1.log after.1.self id1 id2 0 := by
  obtain ⟨m, s⟩ := state
  refine ⟨fun received text stopped listed => ?_,
    clearInactive_goes reachable.intact reachable.cursor named,
    fun event going after returned known => ?_⟩
  · have text := serverOnRawRecvMulti_assertion reachable.intact reachable.empty stopped
    subst text
    exact absurd listed (by decide)
  · obtain ⟨m1, captured, steps, -⟩ := serverOnEvent_steps reachable.cursor returned
    obtain before | heard := steps.client known
    · exact absurd before named
    · exact heard

/-! ### A client that names itself zero -/

/-- An event of the timer. -/
def ticked : EpollEvent := ⟨3, none, none⟩

/-- A client that names itself zero is accepted. -/
theorem readyForZero_reachable :
    Reachable droppingOptions plainStanding clockAnswers 4096 (readyFor 0) := by
  have goes : resultOf (serverOnEvent plainStanding (captured (handshakeCapture 1 8 5 0)))
      waiting = some true := by
    decide +kernel
  have entries : (heardSecond 0).2.mp.entries = oneEntry.entries := by decide +kernel
  have clients : (heardSecond 0).2.constIdMp.entries = (oneClient 0).entries := by decide +kernel
  exact readyFor_reachable goes (written_eq entries clients)

/-- With a client that names itself seven no assertion about connections fails. -/
theorem assertions_seven :
    (∀ received text, StopsWith (serverOnRawRecvMulti received) (readyFor 7) (.assertion text) →
      text ∉ connAssertions) ∧
    (Succeeds clearInactive (readyFor 7) fun _ _ => True) ∧
    ∀ event going after, Returns (serverOnEvent plainStanding event) (readyFor 7) going after →
      0 ∈ after.2.constIdMp → ∃ id1 id2, HeardHandshake after.1.log after.1.self id1 id2 0 :=
  Reachable.assertions readyForSeven_reachable (by decide : (0 : UInt32) ∉ oneClient 7)

/-- The sweep that finds a client that named itself zero inactive stops the server. -/
theorem clearInactive_nameless :
    Reachable droppingOptions plainStanding clockAnswers 4096 (readyFor 0) ∧
      StopsWith (serverOnEvent plainStanding ticked) (readyFor 0)
        (.assertion "oppsite_const_id != 0") := by
  refine ⟨readyForZero_reachable, stopsWith_of_faultOf ?_⟩
  decide +kernel

end Udp2raw
