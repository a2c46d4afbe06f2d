import Udp2raw.Server.Effects

/-!
# Erased entries

What `erase` and the sweep of the connection table do: one entry after the other leaves the
table with its memory, and a ready one gives back its timer, the sockets of its
conversations and its place among the ready connections.
-/
namespace Udp2raw

open Proc ServerProc

variable {v : IpVersion} {options : Options v} {m m' : Machine v} {s s' : Server options}
  {inbox : List Pending}

namespace Server

/-- An entry leaves the table. -/
inductive Erases (s : Server options) (addr : Address v) : Server options → Prop
  /-- It was not ready and had nothing to give back. -/
  | waiting {p : Ptr} {conn : ServerConn options} :
      s.mp.lookup addr = some p → s.heap p = some conn → conn.state ≠ .ready →
      conn.blob = none → conn.timerFd64 = 0 → conn.oppsiteConstId = 0 →
      Erases s addr { s.free p with mp := s.mp.erase addr }
  /-- It was ready. -/
  | ready {p : Ptr} {conn : ServerConn options} {blob : Blob Nat} {closed released : Descriptors} :
      s.mp.lookup addr = some p → s.heap p = some conn → conn.state = .ready →
      conn.blob = some blob → conn.oppsiteConstId ≠ 0 → conn.oppsiteConstId ∈ s.constIdMp →
      s.readyNum ≠ 0 → conn.timerFd64 ≠ 0 →
      s.descriptors.fd64Close conn.timerFd64 = .ok closed →
      blob.convManager.clearAll serverClearFunction closed = .ok released →
      Erases s addr { s.free p with
        readyNum := s.readyNum - 1, constIdMp := s.constIdMp.erase conn.oppsiteConstId
        mp := s.mp.erase addr, descriptors := released }

/-- The counter of ready connections does not pass below zero. -/
theorem sub_one_ne {number : UInt32} : number - 1 ≠ 0xffffffff ↔ number ≠ 0 := by
  have wrapped : number - 1 = 0xffffffff ↔ number = 0 := by
    constructor
    · intro same
      have shifted := congrArg (· + 1) same
      simpa using shifted
    · rintro rfl
      rfl
  rw [ne_eq, wrapped]

/-- The destructor of a ready connection that gave back its timer. -/
theorem destroy_ready {p : Ptr} {conn : ServerConn options} (ready : conn.state = .ready) :
    s.destroy p { conn with timerFd64 := 0 } = .ok s' ↔
      conn.oppsiteConstId ≠ 0 ∧ ∃ blob released, conn.blob = some blob ∧
        blob.convManager.clearAll serverClearFunction s.descriptors = .ok released ∧
        (s.withDescriptors released).free p = s' := by
  simp only [destroy, checkDestroyed, ready, if_pos, exec_bind_iff, assert_iff, decide_eq_true_eq]
  cases contents : conn.blob with
  | none => simp
  | some blob =>
    cases cleared : blob.convManager.clearAll serverClearFunction s.descriptors <;>
      simp [bind, Except.bind, pure, Except.pure, cleared]

/-- The destructor of another connection. -/
theorem destroy_waiting {p : Ptr} {conn : ServerConn options} (waiting : conn.state ≠ .ready) :
    s.destroy p conn = .ok s' ↔
      conn.blob = none ∧ conn.oppsiteConstId = 0 ∧ conn.timerFd64 = 0 ∧ s.free p = s' := by
  simp only [destroy, checkDestroyed, waiting, if_neg, exec_bind_iff, assert_iff, decide_eq_true_eq,
    not_false_eq_true]
  cases contents : conn.blob with
  | none => simp [exec_pure_iff, and_assoc]
  | some blob => simp

/-- `erase` takes an entry out of the table. -/
theorem erase_iff {addr : Address v} : s.erase addr = .ok s' ↔ s.Erases addr s' := by
  simp only [erase, exec_bind_iff, find_iff, deref]
  constructor
  · rintro ⟨p, known, conn, found, erased⟩
    split at found
    · contradiction
    rename_i there
    obtain rfl := Except.ok.inj found
    split at erased
    · rename_i ready
      simp only [retire, exec_bind_iff, exec_pure_iff, assert_iff, decide_eq_true_eq,
        destroy_ready ready] at erased
      obtain ⟨_, ⟨-, count, -, timer, -, -, -, client, -, listed, closed, close, rfl⟩, _,
        ⟨-, blob, released, contents, cleared, rfl⟩, rfl⟩ := erased
      exact .ready known there ready contents client listed (sub_one_ne.mp count) timer close
        cleared
    · rename_i waiting
      simp only [exec_bind_iff, exec_pure_iff, assert_iff, decide_eq_true_eq,
        destroy_waiting waiting] at erased
      obtain ⟨-, -, -, timer, -, client, _, ⟨contents, -, -, rfl⟩, rfl⟩ := erased
      exact .waiting known there waiting contents timer client
  · rintro (⟨known, there, waiting, contents, timer, client⟩ |
      @⟨_, conn, _, _, _, known, there, ready, contents, client, listed, count, timer, close,
        cleared⟩)
    · refine ⟨_, known, _, by rw [there], ?_⟩
      rw [if_neg waiting]
      simp only [exec_bind_iff, exec_pure_iff, assert_iff, decide_eq_true_eq,
        destroy_waiting waiting]
      exact ⟨⟨⟩, by rw [contents]; rfl, ⟨⟩, timer, ⟨⟩, client, _,
        ⟨contents, client, timer, rfl⟩, rfl⟩
    · refine ⟨_, known, _, by rw [there], ?_⟩
      rw [if_pos ready]
      have known64 : s.descriptors.exist conn.timerFd64 = true := by
        simp only [Descriptors.fd64Close, exec_bind_iff, toFd_iff] at close
        obtain ⟨fd, stored, -⟩ := close
        exact decide_eq_true (Table.mem_iff_lookup.mpr ⟨fd, stored⟩)
      simp only [retire, exec_bind_iff, exec_pure_iff, assert_iff, decide_eq_true_eq,
        destroy_ready ready]
      exact ⟨_, ⟨⟨⟩, sub_one_ne.mpr count, ⟨⟩, timer, ⟨⟩, known64, ⟨⟩, client, ⟨⟩, listed, _, close,
        rfl⟩, _, ⟨client, _, _, contents, cleared, rfl⟩, rfl⟩

/-- The place of the sweep is not looked at. -/
theorem Erases.withCursor {addr : Address v} (erases : s.Erases addr s')
    (clearIt : Option (Address v)) :
    ({ s with clearIt }).Erases addr { s' with clearIt } := by
  cases erases with
  | waiting known there waiting contents timer client =>
    exact .waiting known there waiting contents timer client
  | ready known there ready contents client listed count timer close cleared =>
    exact .ready known there ready contents client listed count timer close cleared

/-- The entries that an erasure leaves. -/
theorem Erases.mp {addr : Address v} (erases : s.Erases addr s') : s'.mp = s.mp.erase addr := by
  cases erases <;> rfl

/-- An erasure leaves the other connections in memory alone. -/
theorem Erases.heap {addr : Address v} (erases : s.Erases addr s') {q : Ptr}
    {conn : ServerConn options} (left : s'.heap q = some conn) : s.heap q = some conn := by
  have freed {p : Ptr} (there : (s.free p).heap q = some conn) : s.heap q = some conn := by
    simp only [free, Function.update_apply] at there
    split at there
    · contradiction
    · exact there
  cases erases <;> exact freed left

/-- An erasure does not move the sweep. -/
theorem Erases.clearIt {addr : Address v} (erases : s.Erases addr s') : s'.clearIt = s.clearIt := by
  cases erases <;> rfl

/-- The sweep erases entries one by one and stops at an entry. Meanwhile it stands nowhere. -/
theorem sweep_steps {currentTime count : Nat} {it next : Option (Address v)}
    (swept : sweep currentTime count it s = .ok (next, s')) :
    Steps ⟨m, { s with clearIt := none }, inbox⟩ ⟨m, { s' with clearIt := none }, inbox⟩ ∧
      (Cursor { s with clearIt := it } → Cursor { s' with clearIt := next }) := by
  induction count generalizing it s with
  | zero =>
    obtain ⟨rfl, rfl⟩ := Prod.mk.inj (Except.ok.inj swept)
    exact ⟨.refl, id⟩
  | succ count ih =>
    rw [sweep] at swept
    split at swept
    · obtain ⟨rfl, rfl⟩ := Prod.mk.inj (Except.ok.inj swept)
      exact ⟨.refl, id⟩
    rename_i begin_ started
    have ahead : Cursor { s with clearIt := s.mp.next (it.getD begin_) } :=
      fun _ next => (Table.next_mem next).1
    simp only [exec_bind_iff] at swept
    obtain ⟨p, -, conn, -, swept⟩ := swept
    split at swept
    · obtain ⟨steps, cursor⟩ := ih swept
      exact ⟨steps, fun _ => cursor ahead⟩
    split at swept
    · simp only [exec_bind_iff] at swept
      obtain ⟨_, -, swept⟩ := swept
      obtain ⟨steps, cursor⟩ := ih swept
      exact ⟨steps, fun _ => cursor ahead⟩
    · simp only [exec_bind_iff] at swept
      obtain ⟨between, erased, swept⟩ := swept
      have erases := erase_iff.mp erased
      obtain ⟨steps, cursor⟩ := ih swept
      refine ⟨.head (.erased rfl (erase_iff.mpr (erases.withCursor none))) steps, fun _ => ?_⟩
      refine cursor fun addr next => ?_
      obtain ⟨present, different⟩ := Table.next_mem next
      show addr ∈ between.mp
      rw [erases.mp]
      exact AList.mem_erase.mpr ⟨different, present⟩

end Server

/-- The sweep of the connection table, when it is due. -/
theorem clearInactive_steps {value : Unit} (cursor : s.Cursor)
    (returned : Returns clearInactive (m, s) value (m', s')) :
    Steps ⟨m, s, inbox⟩ ⟨m', s', inbox⟩ := by
  simp only [clearInactive, Returns.bind_iff, call_iff, theServer_iff] at returned
  obtain ⟨now, ⟨m1, _⟩, ⟨one, rfl⟩, _, _, ⟨rfl, rfl⟩, returned⟩ := returned
  have first := (getCurrentTime_ran one).1
  split at returned
  · obtain ⟨-, same⟩ := Returns.pure_iff.mp returned
    obtain ⟨rfl, rfl⟩ := Prod.mk.inj same
    exact .single (.quiet minor_nil first.went)
  · simp only [Returns.bind_iff, call_iff, theServer_iff, run_iff, update_iff,
      Server.clearInactive0, exec_bind_iff, exec_pure_iff] at returned
    obtain ⟨lastClearTime, ⟨m2, _⟩, ⟨two, rfl⟩, currentTime, ⟨m3, _⟩, ⟨three, rfl⟩, _, _,
      ⟨rfl, rfl⟩, _, _, ⟨⟨⟨next, between⟩, swept, rfl⟩, rfl⟩, final⟩ := returned
    obtain ⟨rfl, rfl⟩ := Prod.mk.inj final
    have timed := (first.trans (getCurrentTime_ran two).1).trans (getCurrentTime_ran three).1
    obtain ⟨steps, stops⟩ := Server.sweep_steps swept
    have start : Steps ⟨m, s, inbox⟩ ⟨m', { s with lastClearTime, clearIt := none }, inbox⟩ :=
      .head (.quiet minor_nil timed.went) (.single (.swept nofun))
    exact (start.trans steps).tail (.swept (stops cursor))

/-- The place of the sweep stays an entry of the table. -/
theorem Step.cursor {one two : Stage options} (step : Step one two)
    (cursor : one.server.Cursor) : two.server.Cursor := by
  cases step
  case created s _ addr _ position _ _ absent room fresh heard went =>
    intro other stands
    obtain ⟨p, known⟩ := Table.mem_iff_lookup.mp (cursor other stands)
    refine Table.mem_iff_lookup.mpr ?_
    show ∃ q, (s.mp.insertAt position addr s.allocated).lookup other = some q
    rw [Table.lookup_insertAt absent]
    split
    · exact ⟨_, rfl⟩
    · exact ⟨p, known⟩
  case moved =>
    intro other stands
    exact AList.mem_replace.mpr (AList.mem_replace.mpr (cursor other stands))
  case erased nowhere erased =>
    intro other stands
    rw [(Server.erase_iff.mp erased).clearIt, nowhere] at stands
    contradiction
  case swept stands => exact stands
  all_goals exact cursor

end Udp2raw
