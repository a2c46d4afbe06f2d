import Udp2raw.Server.ConvCreation

/-!
# Sessions that are recovered

A client that shakes hands from a new address takes its ready connection along: the connection
stays the same object, with its timer and its conversations, and goes on with the identifiers
of the new session. A session that began earlier than the present one is refused.
-/
namespace Udp2raw

open Proc ServerProc Server

variable {v : IpVersion} {options : Options v} {m m' : Machine v} {s s' : Server options}
  {standing : Standing} {answers : Nat → Answer v} {filterPort : UInt16}

/-! ### One handshake -/

/-- What a run of the server reaches from a state. The record may grow meanwhile. -/
inductive Later (standing : Standing) :
    Machine v × Server options → Machine v × Server options → Prop
  /-- The state itself. -/
  | refl (state : Machine v × Server options) : Later standing state state
  /-- The record grew. -/
  | logged {start : Machine v × Server options} {machine : Machine v} {server : Server options}
      (log : Log v) : Later standing start (machine, server) →
      Later standing start ({ machine with log }, server)
  /-- An event was handled. -/
  | event {start before after : Machine v × Server options} {event : EpollEvent} {going : Bool} :
      Later standing start before → Returns (serverOnEvent standing event) before going after →
      Later standing start after

/-- What follows a reachable state is reachable. -/
theorem Later.reachable {start final : Machine v × Server options}
    (later : Later standing start final)
    (reachable : Reachable options standing answers filterPort start) :
    Reachable options standing answers filterPort final := by
  induction later with
  | refl => exact reachable
  | logged log _ ih => exact .logged log ih
  | event _ returned ih => exact .event ih returned

/-- An object stays the ready connection of a client as long as it is there: it keeps its timer, and
its session began no earlier than before. -/
structure Server.Remains (constId : UInt32) (q : Ptr) (conn : ServerConn options)
    (server : Server options) : Prop where
  /-- Its memory is not given out again. -/
  bound : q < server.allocated
  /-- It is the connection of the client. -/
  session : ∀ next, server.heap q = some next → server.constIdMp.lookup constId = some q ∧
    next.state = .ready ∧ next.oppsiteConstId = constId ∧ next.timerFd64 = conn.timerFd64 ∧
    conn.lastStateTime ≤ next.lastStateTime

namespace Server.Remains

variable {constId : UInt32} {p q : Ptr} {conn old new : ServerConn options}

/-- A stored connection remains what it was if it was ready. -/
theorem put (remains : s.Remains constId q conn) (found : s.heap p = some old)
    (goes : old.state = .ready → new.state = .ready ∧ new.oppsiteConstId = old.oppsiteConstId ∧
      new.timerFd64 = old.timerFd64 ∧ old.lastStateTime ≤ new.lastStateTime) :
    (s.put p new).Remains constId q conn where
  bound := remains.bound
  session next there := by
    rw [heap_put_apply] at there
    split at there
    · rename_i same
      subst same
      obtain rfl := Option.some.inj there
      obtain ⟨listed, ready, client, timer, time⟩ := remains.session old found
      obtain ⟨state, client', timer', time'⟩ := goes ready
      exact ⟨listed, state, client'.trans client, timer'.trans timer, time.trans time'⟩
    · exact remains.session next there

/-- A connection that goes on remains what it was. -/
theorem touch (remains : s.Remains constId q conn) {now later : Nat}
    (touches : s.Touches p old new now later) : (s.put p new).Remains constId q conn := by
  have like := touches.like
  refine remains.put touches.found fun ready => ?_
  exact ⟨like.state.trans ready, like.oppsiteConstId, like.timerFd64, like.lastStateTime.ge⟩

/-- A connection that waits is not a client's, so whatever becomes of it leaves the others. -/
theorem put_waiting (remains : s.Remains constId q conn) (found : s.heap p = some old)
    (waiting : old.state = .handshake1) : (s.put p new).Remains constId q conn := by
  refine remains.put found fun ready => ?_
  rw [waiting] at ready
  contradiction

/-- Other parts of the server do not matter. -/
theorem congr (remains : s.Remains constId q conn) (heap : s'.heap = s.heap)
    (allocated : s'.allocated = s.allocated) (constIdMp : s'.constIdMp = s.constIdMp) :
    s'.Remains constId q conn where
  bound := allocated ▸ remains.bound
  session := by
    rw [heap, constIdMp]
    exact remains.session

end Server.Remains

/-- Every step leaves a client its connection, as long as it is there. -/
theorem Step.remains {one two : Stage options} (step : Step one two) (tables : one.server.Tables)
    {constId : UInt32} {q : Ptr} {conn : ServerConn options}
    (remains : one.server.Remains constId q conn) : two.server.Remains constId q conn := by
  cases step with
  | quiet => exact remains
  | skipped => exact remains
  | delivered => exact remains
  | swept => exact remains.congr rfl rfl rfl
  | lostSocket => exact remains.congr rfl rfl rfl
  | exchanged touches => exact remains.touch touches
  | replied touches => exact remains.touch touches
  | introduced touches => exact remains.touch touches
  | forwarded touches => exact remains.touch touches
  | refused found waiting => exact remains.put_waiting found waiting
  | @openedConv _ _ s _ p other blob convs _ fd found =>
    have kept : (s.withDescriptors (s.descriptors.registered fd p)).Remains constId q conn :=
      remains.congr rfl rfl rfl
    exact kept.put found fun ready => ⟨ready, rfl, rfl, Nat.le_refl _⟩
  | @evicted _ s _ p other blob convs descriptors found =>
    have kept : (s.withDescriptors descriptors).Remains constId q conn := remains.congr rfl rfl rfl
    exact kept.put found fun ready => ⟨ready, rfl, rfl, Nat.le_refl _⟩
  | @created _ _ s _ addr entry position =>
    refine ⟨Nat.lt_succ_of_lt remains.bound, fun next there => ?_⟩
    rw [heap_put_apply, if_neg (Nat.ne_of_lt remains.bound)] at there
    exact remains.session next there
  | @promoted _ _ s _ p entry next other fd _ _ _ found waiting absent =>
    refine ⟨remains.bound, fun after there => ?_⟩
    have different : q ≠ p := by
      rintro rfl
      have ready := (remains.session entry found).2.1
      rw [waiting] at ready
      contradiction
    rw [heap_put_apply, if_neg different] at there
    obtain ⟨listed, rest⟩ := remains.session after there
    have apart : constId ≠ other := by
      rintro rfl
      rw [absent] at listed
      contradiction
    refine ⟨?_, rest⟩
    show (s.constIdMp.insert other p).lookup constId = some q
    rw [Table.lookup_insert, if_neg apart]
    exact listed
  | @moved _ _ s _ p r pOri pNew entry ori next idle _ _ _ _ found waiting _ there ready _ _ _
      recovered =>
    have swapped : (s.swapped ori.rawInfo.source entry.rawInfo.source pOri pNew).Remains constId q
        conn := remains.congr rfl rfl rfl
    have regained := swapped.put there fun _ =>
      ⟨recovered.state.trans ready, recovered.oppsiteConstId, recovered.timerFd64,
        recovered.lastStateTime⟩
    have different : p ≠ r := by
      rintro rfl
      obtain rfl := Option.some.inj (found.symm.trans there)
      rw [waiting] at ready
      contradiction
    refine regained.put_waiting ?_ waiting
    rw [heap_put_apply, if_neg different]
    exact found
  | @erased _ s next _ addr _ erased =>
    have erases := erase_iff.mp erased
    have left {other : ServerConn options} (there : next.heap q = some other) :
        s.constIdMp.lookup constId = some q := (remains.session other (erases.heap there)).1
    refine ⟨?_, fun other there => ?_⟩
    · cases erases <;> exact remains.bound
    · obtain ⟨listed, rest⟩ := remains.session other (erases.heap there)
      refine ⟨?_, rest⟩
      cases erases with
      | waiting => exact listed
      | @ready p gone _ _ _ known found ready =>
        have different : q ≠ p := by
          rintro rfl
          have freed : (s.free q).heap q = some other := there
          simp [free] at freed
        have apart : constId ≠ gone.oppsiteConstId := by
          intro same
          rw [same, (tables.ready p gone found ready).2] at listed
          exact different (Option.some.inj listed).symm
        show (s.constIdMp.erase gone.oppsiteConstId).lookup constId = some q
        rw [Table.lookup_erase, if_neg apart]
        exact listed

/-- In every run a client keeps its connection, as long as it is there. -/
theorem Later.remains {start final : Machine v × Server options}
    (later : Later standing start final)
    (reachable : Reachable options standing answers filterPort start) {constId : UInt32} {q : Ptr}
    {conn : ServerConn options} (remains : start.2.Remains constId q conn) :
    final.2.Remains constId q conn := by
  induction later with
  | refl => exact remains
  | logged _ _ ih => exact ih
  | @event before after event going earlier returned ih =>
    have reached := earlier.reachable reachable
    obtain ⟨m1, -, steps, -⟩ := serverOnEvent_steps reached.cursor returned
    have kept : after.2.Tables ∧ after.2.Remains constId q conn := by
      refine Steps.keeps (fun _ server => server.Tables ∧ server.Remains constId q conn) ?_ steps
        ⟨reached.tables, ih⟩
      exact fun step both => ⟨both.1.step step, step.remains both.1 both.2⟩
    exact kept.2

end Udp2raw
