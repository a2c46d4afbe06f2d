import Udp2raw.Server.Batch

/-!
# Sockets of new conversations

A message of an unknown conversation makes the server create a socket, give it a number and
register it with `epoll`. Each of these may fail. When the system refuses the socket nothing has
happened yet. When `epoll` refuses it the descriptor is closed, but its number stays behind,
and `fd_manager` fails its assertion as soon as the system hands out the same descriptor again.
-/
namespace Udp2raw

open Proc ServerProc Server

variable {v : IpVersion} {options : Options v} {m m' : Machine v} {s s' : Server options}

/-! ### What a failure leaves behind -/

/-- Whatever descriptor the kernel hands out, `create` takes it. -/
def Descriptors.Accepting (descriptors : Descriptors) : Prop :=
  ∀ fd ∉ descriptors.opened, descriptors.fdExist fd = false

/-- The maps of `fd_manager`, the open descriptors and the conversations are as before. -/
structure Server.Restored (before after : Server options) : Prop where
  /-- `fd_to_fd64_mp`. -/
  fdToFd64 : after.descriptors.fdToFd64 = before.descriptors.fdToFd64
  /-- `fd64_to_fd_mp`. -/
  fd64ToFd : after.descriptors.fd64ToFd = before.descriptors.fd64ToFd
  /-- `fd_info_mp`. -/
  fdInfo : after.descriptors.fdInfo = before.descriptors.fdInfo
  /-- The descriptors that are open. -/
  opened : after.descriptors.opened = before.descriptors.opened
  /-- The conversations of every connection, with its anti-replay window. -/
  blob : ∀ p, (after.heap p).map ConnInfo.blob = (before.heap p).map ConnInfo.blob

/-- How many answers of the system a message takes before a socket is asked for. -/
def noteQuestions (options : Options v) : Nat :=
  match options.hbMode with
  | .data => 1
  | .heartbeat => 0

/-- The system refuses the socket of the next conversation. -/
def SocketRefused (machine : Machine v) (server : Server options) : Prop :=
  let answer := machine.answers (machine.asked + noteQuestions options)
  answer.ok = false ∨ answer.descriptor server.descriptors.opened.keys = none

/-- A note of the time takes one answer. -/
theorem getCurrentTime_asked {time : Nat} (returned : Returns getCurrentTime m time m') :
    m'.asked = m.asked + 1 := by
  simp only [getCurrentTime, getCurrentTimeUs, ask, Returns.bind_iff, Returns.get_iff,
    Returns.set_iff, Returns.pure_iff] at returned
  obtain ⟨micros, _, ⟨answer, _, ⟨_, _, ⟨rfl, rfl⟩, _, _, rfl, rfl, rfl⟩, _, _, ⟨rfl, rfl⟩, fixed⟩,
    rfl, rfl⟩ := returned
  split at fixed
  · simp only [Returns.bind_iff, Returns.set_iff, Returns.pure_iff] at fixed
    obtain ⟨_, _, rfl, rfl, rfl⟩ := fixed
    rfl
  · simp only [Returns.bind_iff, Returns.set_iff, Returns.pure_iff] at fixed
    obtain ⟨_, _, rfl, rfl, rfl⟩ := fixed
    rfl

/-- A stored connection with the same contents changes no conversation. -/
theorem Server.blob_put {p : Ptr} {conn next : ServerConn options} (found : s.heap p = some conn)
    (same : next.blob = conn.blob) (q : Ptr) :
    ((s.put p next).heap q).map ConnInfo.blob = (s.heap q).map ConnInfo.blob := by
  rw [heap_put_apply]
  split
  · rename_i here
    rw [here, found, Option.map_some, Option.map_some, same]
  · rfl

/-- A heartbeat changes no descriptor and no conversation. -/
theorem noteHeartbeat_restored {p : Ptr} {value : Unit}
    (returned : Returns (noteHeartbeat p) (m, s) value (m', s')) :
    s'.descriptors = s.descriptors ∧ m'.asked = m.asked + 1 ∧ m'.answers = m.answers ∧
      ∀ q, (s'.heap q).map ConnInfo.blob = (s.heap q).map ConnInfo.blob := by
  simp only [noteHeartbeat, Returns.bind_iff, deref_iff, call_iff, store_iff] at returned
  obtain ⟨conn, _, ⟨found, rfl⟩, now, ⟨m1, _⟩, ⟨timed, rfl⟩, returned⟩ := returned
  obtain ⟨rfl, rfl⟩ := Prod.mk.inj returned
  exact ⟨rfl, getCurrentTime_asked timed, (getCurrentTime_ran timed).1.answers, blob_put found rfl⟩

/-- Neither does the data that stands for one. -/
theorem noteData_restored {p : Ptr} {value : Unit}
    (returned : Returns (noteData p) (m, s) value (m', s')) :
    s'.descriptors = s.descriptors ∧ m'.asked = m.asked + noteQuestions options ∧
      m'.answers = m.answers ∧
        ∀ q, (s'.heap q).map ConnInfo.blob = (s.heap q).map ConnInfo.blob := by
  unfold noteData at returned
  unfold noteQuestions
  cases mode : options.hbMode with
  | data =>
    rw [mode] at returned
    exact noteHeartbeat_restored returned
  | heartbeat =>
    rw [mode] at returned
    obtain ⟨-, same⟩ := Returns.pure_iff.mp returned
    obtain ⟨rfl, rfl⟩ := Prod.mk.inj same
    exact ⟨rfl, rfl, rfl, fun _ => rfl⟩

/-- A socket is refused, or it is new. -/
theorem newConnectedUdpFd_outcome {result : Option Nat}
    (returned : Returns newConnectedUdpFd (m, s) result (m', s')) :
    let answer := m.answers m.asked
    (answer.ok = false ∨ answer.descriptor s.descriptors.opened.keys = none) ∧ result = none ∧
        s' = s ∨
      ¬(answer.ok = false ∨ answer.descriptor s.descriptors.opened.keys = none) ∧
        ∃ fd, result = some fd ∧ fd ∉ s.descriptors.opened ∧
          s' = s.withDescriptors (s.descriptors.sockOpen fd) := by
  simp only [newConnectedUdpFd, Returns.bind_iff, call_iff, theServer_iff] at returned
  obtain ⟨answer, ⟨m1, s1⟩, ⟨asked, rfl⟩, _, _, ⟨rfl, rfl⟩, returned⟩ := returned
  rw [(ask_ran asked).2] at returned
  intro answer
  split at returned
  · rename_i fd okay given
    simp only [Returns.bind_iff, update_iff, Returns.pure_iff] at returned
    obtain ⟨_, _, rfl, rfl, same⟩ := returned
    obtain ⟨-, rfl⟩ := Prod.mk.inj same
    refine .inr ⟨?_, fd.val, rfl, fd.property, rfl⟩
    have okay : answer.ok = true := okay
    have given : answer.descriptor s.descriptors.opened.keys = some fd := given
    rw [okay, given]
    simp
  · rename_i refused
    obtain ⟨rfl, same⟩ := Returns.pure_iff.mp returned
    obtain ⟨-, rfl⟩ := Prod.mk.inj same
    refine .inl ⟨?_, rfl, rfl⟩
    by_contra granted
    rw [not_or, Bool.not_eq_false] at granted
    obtain ⟨fd, given⟩ := Option.ne_none_iff_exists'.mp granted.2
    exact refused fd granted.1 given

/-- The descriptors with a number that was left behind. -/
def Descriptors.leaked (descriptors : Descriptors) (fd : Nat) (p : Ptr) : Descriptors :=
  (descriptors.registered fd p).sockClose fd

/-- A creation that fails was refused its socket, or leaves a number behind. One that does not
fail registers its socket. -/
theorem openConv_outcome {p : Ptr} {conv : UInt32} {outcome : Option Int}
    (returned : Returns (openConv p conv) (m, s) outcome (m', s')) :
    let answer := m.answers m.asked
    (answer.ok = false ∨ answer.descriptor s.descriptors.opened.keys = none) ∧
        outcome = some (-1) ∧ s' = s ∨
      ¬(answer.ok = false ∨ answer.descriptor s.descriptors.opened.keys = none) ∧
        ∃ fd, s.descriptors.Unused fd ∧
          (outcome = some (-1) ∧ s' = s.withDescriptors (s.descriptors.leaked fd p) ∨
            outcome = none ∧ s'.descriptors = s.descriptors.registered fd p) := by
  simp only [openConv, Returns.bind_iff] at returned
  obtain ⟨result, ⟨m1, s1⟩, created, returned⟩ := returned
  intro answer
  obtain ⟨refused, rfl, rfl⟩ | ⟨granted, fd, rfl, fresh, rfl⟩ := newConnectedUdpFd_outcome created
  · obtain ⟨rfl, same⟩ := Returns.pure_iff.mp returned
    exact .inl ⟨refused, rfl, (Prod.mk.inj same).2.symm⟩
  simp only [Returns.bind_iff, theServer_iff] at returned
  obtain ⟨_, _, ⟨rfl, rfl⟩, fd64, ⟨m2, s2⟩, registered, returned⟩ := returned
  obtain ⟨rfl, unknown, rfl, rfl⟩ := registerFd_ran registered
  refine .inr ⟨granted, fd, ⟨fresh, unknown⟩, ?_⟩
  simp only [call_iff] at returned
  obtain ⟨_, ⟨m3, _⟩, ⟨asked, rfl⟩, returned⟩ := returned
  split at returned
  · simp only [Returns.bind_iff, update_iff, Returns.pure_iff] at returned
    obtain ⟨_, _, rfl, rfl, same⟩ := returned
    exact .inl ⟨rfl, (Prod.mk.inj same).2.symm⟩
  · simp only [Returns.bind_iff, deref_iff, call_iff, run_iff, store_iff, Returns.pure_iff]
      at returned
    obtain ⟨_, _, ⟨-, rfl⟩, _, _, ⟨-, rfl⟩, _, ⟨_, _⟩, ⟨-, rfl⟩, _, _, rfl, _, ⟨_, _⟩, ⟨-, rfl⟩,
      rfl, same⟩ := returned
    obtain ⟨-, rfl⟩ := Prod.mk.inj same
    exact .inr ⟨rfl, rfl⟩

/-- A delivery changes no descriptor. -/
theorem deliver_descriptors {p : Ptr} {frame : Frame} {conv : UInt32} {value : Unit}
    (returned : Returns (deliver p frame conv) (m, s) value (m', s')) :
    s'.descriptors = s.descriptors := by
  simp only [deliver, Returns.bind_iff, deref_iff, call_iff, run_iff, store_iff, theServer_iff]
    at returned
  obtain ⟨_, _, ⟨-, rfl⟩, _, _, ⟨-, rfl⟩, _, ⟨_, _⟩, ⟨-, rfl⟩, _, _, rfl, _, _, ⟨rfl, rfl⟩, _, _,
    ⟨-, rfl⟩, returned⟩ := returned
  simp only [sendSocket, Returns.bind_iff, theServer_iff] at returned
  obtain ⟨_, _, ⟨rfl, rfl⟩, returned⟩ := returned
  split at returned
  · obtain ⟨-, same⟩ := Returns.pure_iff.mp returned
    obtain ⟨-, rfl⟩ := Prod.mk.inj same
    rfl
  · rw [call_iff] at returned
    obtain ⟨-, rfl⟩ := returned
    rfl

/-- What a message does to the descriptors: nothing, or it registers a socket, or it fails. -/
inductive MessageOutcome (p : Ptr) (machine : Machine v) (before after : Server options) :
    Int → Prop
  /-- No socket was needed. -/
  | kept {ret : Int} : ret ≠ -1 → after.descriptors = before.descriptors →
      MessageOutcome p machine before after ret
  /-- A socket was registered. -/
  | registered {ret : Int} {fd : Nat} : ret ≠ -1 → before.descriptors.Unused fd →
      after.descriptors = before.descriptors.registered fd p →
      MessageOutcome p machine before after ret
  /-- The system refused the socket. -/
  | refused : SocketRefused machine before → after.descriptors = before.descriptors →
      (∀ q, (after.heap q).map ConnInfo.blob = (before.heap q).map ConnInfo.blob) →
      MessageOutcome p machine before after (-1)
  /-- `epoll` refused the socket. -/
  | leaked {fd : Nat} : ¬SocketRefused machine before → before.descriptors.Unused fd →
      after.descriptors = before.descriptors.leaked fd p →
      MessageOutcome p machine before after (-1)

/-- A message has one of these outcomes. -/
theorem serverOnRawRecvReady_outcome {p : Ptr} {frame : Frame} {ret : Int}
    (returned : Returns (serverOnRawRecvReady p frame) (m, s) ret (m', s')) :
    MessageOutcome p m s s' ret := by
  unfold serverOnRawRecvReady at returned
  split at returned
  · simp only [Returns.bind_iff, Returns.pure_iff] at returned
    obtain ⟨_, _, noted, rfl, rfl⟩ := returned
    exact .kept (by decide) (noteHeartbeat_restored noted).1
  split at returned
  · simp only [Returns.bind_iff] at returned
    obtain ⟨_, ⟨m1, s1⟩, noted, outcome, ⟨m2, s2⟩, ensured, returned⟩ := returned
    obtain ⟨same, asked, answers, blobs⟩ := noteData_restored noted
    have answer : m1.answers m1.asked = m.answers (m.asked + noteQuestions options) := by
      rw [answers, asked]
    simp only [ensureConv, Returns.bind_iff, deref_iff, run_iff] at ensured
    obtain ⟨conn, _, ⟨-, rfl⟩, blob, _, ⟨-, rfl⟩, ensured⟩ := ensured
    have finished : (outcome = some ret ∧ s' = s2) ∨
        outcome = none ∧ ret = 0 ∧ s'.descriptors = s2.descriptors := by
      cases outcome with
      | some other =>
        obtain ⟨rfl, same⟩ := Returns.pure_iff.mp returned
        exact .inl ⟨rfl, (Prod.mk.inj same).2.symm⟩
      | none =>
        simp only [Returns.bind_iff, Returns.pure_iff] at returned
        obtain ⟨_, _, delivered, rfl, rfl⟩ := returned
        exact .inr ⟨rfl, rfl, deliver_descriptors delivered⟩
    split at ensured
    · obtain ⟨rfl, still⟩ := Returns.pure_iff.mp ensured
      obtain ⟨rfl, rfl⟩ := Prod.mk.inj still
      obtain ⟨impossible, -⟩ | ⟨-, rfl, last⟩ := finished
      · contradiction
      · exact .kept (by decide) (last.trans same)
    split at ensured
    · obtain ⟨rfl, still⟩ := Returns.pure_iff.mp ensured
      obtain ⟨rfl, rfl⟩ := Prod.mk.inj still
      obtain ⟨full, rfl⟩ | ⟨impossible, -⟩ := finished
      · obtain rfl := Option.some.inj full
        exact .kept (by decide) same
      · contradiction
    · have question : SocketRefused m s ↔ (m1.answers m1.asked).ok = false ∨
          (m1.answers m1.asked).descriptor s1.descriptors.opened.keys = none := by
        rw [answer, same]
        rfl
      have opened := openConv_outcome ensured
      dsimp only at opened
      rw [← question, same] at opened
      obtain ⟨refused, rfl, rfl⟩ | ⟨granted, fd, unused, ⟨rfl, rfl⟩ | ⟨rfl, registered⟩⟩ := opened
      · obtain ⟨failed, rfl⟩ | ⟨impossible, -⟩ := finished
        · obtain rfl := Option.some.inj failed
          exact .refused refused same blobs
        · contradiction
      · obtain ⟨failed, rfl⟩ | ⟨impossible, -⟩ := finished
        · obtain rfl := Option.some.inj failed
          exact .leaked granted unused rfl
        · contradiction
      · obtain ⟨impossible, -⟩ | ⟨-, rfl, last⟩ := finished
        · contradiction
        · exact .registered (by decide) unused (last.trans registered)
  · obtain ⟨rfl, still⟩ := Returns.pure_iff.mp returned
    obtain ⟨rfl, rfl⟩ := Prod.mk.inj still
    exact .kept (by decide) rfl

/-! ### The numbers that are free -/

namespace Descriptors

variable {descriptors : Descriptors} {fd : Nat} {p : Ptr}

/-- A registered socket leaves the other descriptors free. -/
theorem Accepting.registered (accepting : descriptors.Accepting) (fd : Nat) (p : Ptr) :
    (descriptors.registered fd p).Accepting := by
  intro other closed
  have different : other ≠ fd := by
    rintro rfl
    exact closed ((AList.mem_insert _).mpr (.inl rfl))
  have before : other ∉ descriptors.opened := fun opened =>
    closed ((AList.mem_insert _).mpr (.inr opened))
  have free := accepting other before
  rw [fdExist, decide_eq_false_iff_not] at free ⊢
  exact fun numbered => ((AList.mem_insert _).mp numbered).elim different free

/-- A number that was left behind is not free, and its descriptor may be handed out again. -/
theorem leaked_refuses : ¬(descriptors.leaked fd p).Accepting := by
  intro accepting
  have closed : fd ∉ (descriptors.leaked fd p).opened := fun opened =>
    (AList.mem_erase.mp opened).1 rfl
  have numbered : (descriptors.leaked fd p).fdExist fd = true :=
    decide_eq_true ((AList.mem_insert _).mpr (.inl rfl))
  rw [accepting fd closed] at numbered
  contradiction

/-- A number that was left behind is in the maps. -/
theorem leaked_known (unused : descriptors.Unused fd) :
    (descriptors.leaked fd p).fdToFd64 ≠ descriptors.fdToFd64 := by
  intro same
  have numbered : fd ∈ (descriptors.leaked fd p).fdToFd64 := (AList.mem_insert _).mpr (.inl rfl)
  rw [same] at numbered
  exact unused.2 numbered

end Descriptors

/-- One message after the other, where a creation only ever fails because the system refused its
socket. -/
inductive Messages : Machine v × Server options → Machine v × Server options → Prop
  /-- No message. -/
  | done {state : Machine v × Server options} : Messages state state
  /-- One more message. -/
  | next {start before after : Machine v × Server options} {p : Ptr} {frame : Frame} {ret : Int} :
      Messages start before → Returns (serverOnRawRecvReady p frame) before ret after →
      (ret = -1 → SocketRefused before.1 before.2) → Messages start after

/-- In such a sequence `create` always takes what the kernel may hand out. -/
theorem Messages.accepting {start final : Machine v × Server options}
    (messages : Messages start final) (accepting : start.2.descriptors.Accepting) :
    final.2.descriptors.Accepting := by
  induction messages with
  | done => exact accepting
  | next _ returned refused ih =>
    cases serverOnRawRecvReady_outcome returned with
    | kept _ same => exact same ▸ ih
    | registered _ _ same => exact same ▸ ih.registered _ _
    | refused _ same _ => exact same ▸ ih
    | leaked granted _ _ => exact absurd (refused rfl) granted

/-- A failed creation restores the maps and the conversations exactly if it was the socket that
the system refused. In every later sequence of messages `create` takes whatever descriptor the
kernel hands out exactly if, besides, it did so before. -/
theorem serverOnRawRecvReady_atomic_iff {p : Ptr} {frame : Frame}
    (returned : Returns (serverOnRawRecvReady p frame) (m, s) (-1) (m', s')) :
    (s.Restored s' ↔ SocketRefused m s) ∧
      ((∀ later, Messages (m', s') later → later.2.descriptors.Accepting) ↔
        SocketRefused m s ∧ s.descriptors.Accepting) := by
  have outcome := serverOnRawRecvReady_outcome returned
  generalize failed : (-1 : Int) = ret at outcome
  cases outcome with
  | kept succeeded => exact absurd failed.symm succeeded
  | registered succeeded => exact absurd failed.symm succeeded
  | refused refused same blobs =>
    have restored : s.Restored s' :=
      ⟨by rw [same], by rw [same], by rw [same], by rw [same], blobs⟩
    refine ⟨iff_of_true restored refused, fun always => ⟨refused, ?_⟩,
      fun accepting later messages => ?_⟩
    · have now : s'.descriptors.Accepting := always _ .done
      exact same ▸ now
    · exact messages.accepting (same ▸ accepting.2)
  | leaked granted unused same =>
    have changed : ¬s.Restored s' := fun restored =>
      Descriptors.leaked_known unused (same ▸ restored.fdToFd64)
    have stuck : ¬∀ later, Messages (m', s') later → later.2.descriptors.Accepting := by
      intro always
      have now : s'.descriptors.Accepting := always _ .done
      rw [same] at now
      exact Descriptors.leaked_refuses now
    exact ⟨iff_of_false changed granted, iff_of_false stuck fun refused => granted refused.1⟩

/-- A message of conversation nine. -/
def unknownConvFrame : Frame := ⟨1, typeData, [0, 0, 0, 9, 1]⟩

/-- A server with one client, whose next call of `epoll_ctl` fails. -/
def refusingEpoll : Machine .ipv4 × Server droppingOptions :=
  ({ (readyFor 7).1 with
    answers := fun asked =>
      { clockAnswers asked with ok := decide (asked ≠ (readyFor 7).1.asked + 1) } },
    (readyFor 7).2)

/-- What a failed creation restores there. -/
theorem serverOnRawRecvReady_atomic_refusing :
    ∃ after, Returns (serverOnRawRecvReady 0 unknownConvFrame) refusingEpoll (-1) after ∧
      (refusingEpoll.2.Restored after.2 ↔ SocketRefused refusingEpoll.1 refusingEpoll.2) ∧
      ((∀ later, Messages after later → later.2.descriptors.Accepting) ↔
        SocketRefused refusingEpoll.1 refusingEpoll.2 ∧
          refusingEpoll.2.descriptors.Accepting) := by
  have goes : resultOf (serverOnRawRecvReady 0 unknownConvFrame) refusingEpoll = some (-1) := by
    decide +kernel
  have returned := returns_of_resultOf goes
  exact ⟨_, returned, serverOnRawRecvReady_atomic_iff returned⟩

/-- The number of the closed socket stays behind, and when the kernel hands out the same
descriptor for the next message, the server stops. -/
theorem serverOnRawRecvReady_leaks :
    let after := leaves (serverOnRawRecvReady 0 unknownConvFrame) refusingEpoll
    Returns (serverOnRawRecvReady 0 unknownConvFrame) refusingEpoll (-1) after ∧
      ¬refusingEpoll.2.Restored after.2 ∧
      StopsWith (serverOnRawRecvReady 0 unknownConvFrame) after (.assertion "!fd_exist(fd)") := by
  intro after
  have goes : resultOf (serverOnRawRecvReady 0 unknownConvFrame) refusingEpoll = some (-1) := by
    decide +kernel
  have numbers : after.2.descriptors.fdToFd64.keys ≠ refusingEpoll.2.descriptors.fdToFd64.keys := by
    decide +kernel
  have stops : faultOf (serverOnRawRecvReady 0 unknownConvFrame) after =
      some (.assertion "!fd_exist(fd)") := by
    decide +kernel
  refine ⟨returns_of_resultOf goes, fun restored => ?_, stopsWith_of_faultOf stops⟩
  exact numbers (congrArg AList.keys restored.fdToFd64)

end Udp2raw
