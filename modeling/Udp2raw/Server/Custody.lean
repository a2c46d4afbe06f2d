import Udp2raw.Server.Descriptors
import Udp2raw.Server.Tables

/-!
# Who owns a descriptor

Every ready connection owns its timer and the sockets of its conversations: `fd_manager`
names it as the owner of each. As long as `epoll` takes every socket nothing else has a
number there, so each number belongs to one connection and to one thing in it.
-/
namespace Udp2raw

open Server

variable {v : IpVersion} {options : Options v} {m m' : Machine v} {s s' : Server options}

namespace Server

/-- Every connection owns its descriptors. -/
structure Custody (server : Server options) : Prop where
  /-- The tables of `fd_manager` agree. -/
  sound : server.descriptors.Sound
  /-- A ready connection owns its timer. -/
  timer : ∀ p conn, server.heap p = some conn → conn.state = .ready →
    conn.timerFd64 ≠ 0 ∧ server.descriptors.fdInfo.lookup conn.timerFd64 = some p
  /-- The conversation tables of a connection agree. -/
  linked : ∀ p conn blob, server.heap p = some conn → conn.blob = some blob →
    blob.convManager.Linked
  /-- A connection owns the sockets of its conversations, and none of them is its timer. -/
  sockets : ∀ p conn blob conv fd64, server.heap p = some conn → conn.blob = some blob →
    blob.convManager.convToData.lookup conv = some fd64 →
    fd64 ≠ conn.timerFd64 ∧ server.descriptors.fdInfo.lookup fd64 = some p

/-- A connection uses a number of `fd_manager`. -/
def Needs (conn : ServerConn options) (fd64 : Nat) : Prop :=
  conn.state = .ready ∧ ∃ blob, conn.blob = some blob ∧
    (fd64 = conn.timerFd64 ∨ ∃ conv, blob.convManager.convToData.lookup conv = some fd64)

/-- The number of an open descriptor is used by its owner. -/
def Used (server : Server options) : Prop :=
  ∀ fd64 fd p, server.descriptors.fd64ToFd.lookup fd64 = some fd →
    fd ∈ server.descriptors.opened → server.descriptors.fdInfo.lookup fd64 = some p →
    ∃ conn, server.heap p = some conn ∧ Needs conn fd64

/-- A connection that keeps its timer and its conversations. -/
structure SameHoldings (before after : ServerConn options) : Prop where
  /-- It has the same timer. -/
  timerFd64 : after.timerFd64 = before.timerFd64
  /-- It is ready exactly when it was. -/
  ready : after.state = .ready ↔ before.state = .ready
  /-- It has the same conversations. -/
  convs : Option.Rel (fun old new => old.convManager.SameConvs new.convManager) before.blob
    after.blob

/-! ### Connections that keep what they own -/

/-- A connection that goes on keeps what it owns. -/
theorem sameHoldings_of_like {now later : Nat} {conn next : ServerConn options}
    (like : conn.Like now later next) : SameHoldings conn next where
  timerFd64 := like.timerFd64
  ready := by rw [like.state]
  convs := ConnInfo.rel_mono like.blob fun _ _ same => same.convs

/-- A refused entry keeps what it owns. -/
theorem sameHoldings_of_idled {conn next : ServerConn options} (waiting : conn.state = .handshake1)
    (idled : Idled conn next) : SameHoldings conn next where
  timerFd64 := idled.timerFd64
  ready := by rw [idled.state, waiting]; exact ⟨nofun, nofun⟩
  convs := ConnInfo.rel_of_eq (fun _ => .refl _) idled.blob

/-- A recovered connection keeps what it owns. -/
theorem sameHoldings_of_recovered {now later : Nat} {seq : UInt64}
    {conn ori next : ServerConn options} (recovered : Recovered now later seq conn ori next) :
    SameHoldings ori next where
  timerFd64 := recovered.timerFd64
  ready := by rw [recovered.state]
  convs := by
    obtain ⟨old, new, before, after, like, -⟩ := recovered.blob
    rw [before, after]
    exact .some like.convs

/-- A connection that keeps what it owns uses the same numbers. -/
theorem SameHoldings.needs {conn next : ServerConn options} (same : SameHoldings conn next)
    {fd64 : Nat} (needs : Needs conn fd64) : Needs next fd64 := by
  obtain ⟨ready, blob, contents, used⟩ := needs
  have convs := same.convs
  rw [contents] at convs
  obtain ⟨other, after, link⟩ := ConnInfo.rel_some convs
  refine ⟨same.ready.mpr ready, other, after, ?_⟩
  rw [same.timerFd64, link.convToData]
  exact used

/-! ### Custody -/

/-- A server that starts owns nothing. -/
theorem custody_start : Custody (start : Server options) where
  sound := Descriptors.sound_new
  timer := by simp [start]
  linked := by simp [start]
  sockets := by simp [start]

/-- The same connections with at least the same owners. -/
theorem Custody.congr (custody : s.Custody) (heap : s'.heap = s.heap)
    (sound : s'.descriptors.Sound)
    (info : ∀ fd64 p, s.descriptors.fdInfo.lookup fd64 = some p →
      s'.descriptors.fdInfo.lookup fd64 = some p) : s'.Custody where
  sound := sound
  timer p conn found ready := by
    rw [heap] at found
    obtain ⟨some, owned⟩ := custody.timer p conn found ready
    exact ⟨some, info _ _ owned⟩
  linked := by rw [heap]; exact custody.linked
  sockets p conn blob conv fd64 found contents used := by
    rw [heap] at found
    obtain ⟨different, owned⟩ := custody.sockets p conn blob conv fd64 found contents used
    exact ⟨different, info _ _ owned⟩

/-- A stored connection has to own what it uses. -/
theorem Custody.put (custody : s.Custody) {p : Ptr} {next : ServerConn options}
    (timer : next.state = .ready →
      next.timerFd64 ≠ 0 ∧ s.descriptors.fdInfo.lookup next.timerFd64 = some p)
    (linked : ∀ blob, next.blob = some blob → blob.convManager.Linked)
    (sockets : ∀ blob conv fd64, next.blob = some blob →
      blob.convManager.convToData.lookup conv = some fd64 →
      fd64 ≠ next.timerFd64 ∧ s.descriptors.fdInfo.lookup fd64 = some p) :
    (s.put p next).Custody where
  sound := custody.sound
  timer q conn found ready := by
    rw [heap_put_apply] at found
    split at found
    · rename_i same
      obtain rfl := Option.some.inj found
      exact same ▸ timer ready
    · exact custody.timer q conn found ready
  linked q conn blob found contents := by
    rw [heap_put_apply] at found
    split at found
    · obtain rfl := Option.some.inj found
      exact linked blob contents
    · exact custody.linked q conn blob found contents
  sockets q conn blob conv fd64 found contents used := by
    rw [heap_put_apply] at found
    split at found
    · rename_i same
      obtain rfl := Option.some.inj found
      exact same ▸ sockets blob conv fd64 contents used
    · exact custody.sockets q conn blob conv fd64 found contents used

/-- A stored connection that keeps what it owns. -/
theorem Custody.keep (custody : s.Custody) {p : Ptr} {conn next : ServerConn options}
    (found : s.heap p = some conn) (same : SameHoldings conn next) : (s.put p next).Custody := by
  refine custody.put (fun ready => ?_) (fun blob contents => ?_)
    fun blob conv fd64 contents used => ?_
  · rw [same.timerFd64]
    exact custody.timer p conn found (same.ready.mp ready)
  · have convs := same.convs
    rw [contents] at convs
    obtain ⟨old, before, link⟩ := ConnInfo.rel_to_some convs
    exact (custody.linked p conn old found before).same link
  · have convs := same.convs
    rw [contents] at convs
    obtain ⟨old, before, link⟩ := ConnInfo.rel_to_some convs
    rw [link.convToData] at used
    rw [same.timerFd64]
    exact custody.sockets p conn old conv fd64 found before used

/-- A number with an owner is known. -/
theorem Custody.known (custody : s.Custody) {fd64 : Nat} {p : Ptr}
    (owned : s.descriptors.fdInfo.lookup fd64 = some p) : fd64 ∈ s.descriptors.fd64ToFd :=
  (custody.sound.info fd64).mp (Table.mem_iff_lookup.mpr ⟨p, owned⟩)

/-- A registered descriptor takes no number from its owner. -/
theorem Custody.registered (custody : s.Custody) {fd : Nat} (unused : s.descriptors.Unused fd)
    (p : Ptr) : (s.withDescriptors (s.descriptors.registered fd p)).Custody := by
  refine custody.congr rfl (custody.sound.registered unused p) fun fd64 q owned => ?_
  show (s.descriptors.registered fd p).fdInfo.lookup fd64 = some q
  rw [Descriptors.info_registered, if_neg, owned]
  rintro rfl
  exact custody.sound.counter_unknown (custody.known owned)

/-- The numbers that an erased entry uses. -/
theorem erased_closed {conn : ServerConn options} {blob : Blob Nat}
    {closed released : Descriptors} (custody : s.Custody)
    (close : s.descriptors.fd64Close conn.timerFd64 = .ok closed)
    (cleared : blob.convManager.clearAll serverClearFunction closed = .ok released) :
    Descriptors.Closed (fun fd64 => fd64 = conn.timerFd64 ∨
      ∃ conv, blob.convManager.convToData.lookup conv = some fd64) s.descriptors released := by
  have one := custody.sound.close close
  rw [Descriptors.clearAll_eq] at cleared
  have two := one.sound.closeAll cleared
  exact (one.trans two).congr fun fd64 => by rw [ConvManager.mem_data_iff]

/-- An erased entry takes what it owns with it and nothing else. -/
theorem Custody.erased (custody : s.Custody) {addr : Address v} (erases : s.Erases addr s') :
    s'.Custody := by
  have left {p q : Ptr} {conn : ServerConn options} (found : (s.free p).heap q = some conn) :
      q ≠ p ∧ s.heap q = some conn := by
    simp only [free, Function.update_apply] at found
    split at found
    · contradiction
    · rename_i different
      exact ⟨different, found⟩
  cases erases with
  | @waiting p =>
    constructor
    case sound => exact custody.sound
    case timer => exact fun q conn found => custody.timer q conn (left found).2
    case linked => exact fun q conn blob found => custody.linked q conn blob (left found).2
    case sockets =>
      exact fun q conn blob conv fd64 found => custody.sockets q conn blob conv fd64 (left found).2
  | @ready p conn blob closed released _ found ready contents _ _ _ _ close cleared =>
    have gone := erased_closed custody close cleared
    have rest {fd64 : Nat} {q : Ptr} (different : q ≠ p)
        (owned : s.descriptors.fdInfo.lookup fd64 = some q) :
        released.fdInfo.lookup fd64 = some q := by
      rw [gone.fdInfo, owned]
      rintro (rfl | ⟨conv, used⟩)
      · rw [(custody.timer p conn found ready).2] at owned
        exact different (Option.some.inj owned).symm
      · rw [(custody.sockets p conn blob conv fd64 found contents used).2] at owned
        exact different (Option.some.inj owned).symm
    constructor
    case sound => exact gone.sound
    case timer =>
      intro q other there used
      obtain ⟨different, there⟩ := left there
      obtain ⟨some, owned⟩ := custody.timer q other there used
      exact ⟨some, rest different owned⟩
    case linked => exact fun q other blob there => custody.linked q other blob (left there).2
    case sockets =>
      intro q other blob conv fd64 there contents used
      obtain ⟨different, there⟩ := left there
      obtain ⟨apart, owned⟩ := custody.sockets q other blob conv fd64 there contents used
      exact ⟨apart, rest different owned⟩

/-- An idle conversation that was closed is owned no more. -/
theorem Custody.evicted (custody : s.Custody) {p : Ptr} {conn : ServerConn options}
    {blob : Blob Nat} {convs : ConvManager Nat} {descriptors : Descriptors}
    (found : s.heap p = some conn) (contents : conn.blob = some blob)
    (erased : ConvManager.Erased serverClearFunction (blob.convManager, s.descriptors)
      (convs, descriptors)) :
    ((s.withDescriptors descriptors).put p (conn.withConvs blob convs)).Custody ∧
      ∃ conv fd64, blob.convManager.convToData.lookup conv = some fd64 ∧
        convs = blob.convManager.without conv fd64 ∧
        Descriptors.Closed (fun other => other = fd64) s.descriptors descriptors := by
  have linked := custody.linked p conn blob found contents
  obtain ⟨conv, fd64, used, released, rfl⟩ := erased.released linked
  have gone := custody.sound.close (Descriptors.serverClearFunction_iff.mp released)
  have owned := (custody.sockets p conn blob conv fd64 found contents used).2
  refine ⟨?_, conv, fd64, used, rfl, gone⟩
  have rest {q : Ptr} {other : Nat} (there : s.descriptors.fdInfo.lookup other = some q)
      (different : other ≠ fd64) : descriptors.fdInfo.lookup other = some q := by
    rw [gone.fdInfo other different, there]
  have elsewhere {q : Ptr} {other : Nat} (apart : q ≠ p)
      (there : s.descriptors.fdInfo.lookup other = some q) : other ≠ fd64 := by
    rintro rfl
    rw [owned] at there
    exact apart (Option.some.inj there).symm
  -- what the connection keeps: its timer, and the sockets of the other conversations
  have kept : conn.state = .ready →
      conn.timerFd64 ≠ 0 ∧ descriptors.fdInfo.lookup conn.timerFd64 = some p := by
    intro ready
    obtain ⟨some, own⟩ := custody.timer p conn found ready
    have apart := (custody.sockets p conn blob conv fd64 found contents used).1
    exact ⟨some, rest own (Ne.symm apart)⟩
  constructor
  case sound => exact gone.sound
  case timer =>
    intro q other there ready
    rw [heap_put_apply] at there
    split at there
    · rename_i same
      obtain rfl := Option.some.inj there
      exact same ▸ kept ready
    · rename_i apart
      obtain ⟨some, own⟩ := custody.timer q other there ready
      exact ⟨some, rest own (elsewhere apart own)⟩
  case linked =>
    intro q other contents' there after
    rw [heap_put_apply] at there
    split at there
    · obtain rfl := Option.some.inj there
      obtain rfl := Option.some.inj after
      exact linked.without used
    · exact custody.linked q other contents' there after
  case sockets =>
    intro q other contents' conv' fd64' there after used'
    rw [heap_put_apply] at there
    split at there
    · rename_i same
      subst same
      obtain rfl := Option.some.inj there
      obtain rfl := Option.some.inj after
      have split : (blob.convManager.convToData.erase conv).lookup conv' = some fd64' := used'
      rw [Table.lookup_erase] at split
      split at split
      · contradiction
      rename_i different
      obtain ⟨apart, own⟩ := custody.sockets q conn blob conv' fd64' found contents split
      refine ⟨apart, rest own ?_⟩
      rintro rfl
      have one := (linked.inverse _ _).mp split
      rw [(linked.inverse _ _).mp used] at one
      exact different (Option.some.inj one).symm
    · rename_i apart
      obtain ⟨other', own⟩ := custody.sockets q other contents' conv' fd64' there after used'
      exact ⟨other', rest own (elsewhere apart own)⟩

/-- Every step keeps the custody. -/
theorem Custody.step {one two : Stage options} (step : Step one two) (tables : one.server.Tables)
    (custody : one.server.Custody) : two.server.Custody := by
  cases step with
  | quiet | skipped | delivered => exact custody
  | exchanged touches => exact custody.keep touches.found (sameHoldings_of_like touches.like)
  | replied touches => exact custody.keep touches.found (sameHoldings_of_like touches.like)
  | introduced touches => exact custody.keep touches.found (sameHoldings_of_like touches.like)
  | forwarded touches => exact custody.keep touches.found (sameHoldings_of_like touches.like)
  | @created m m' s _ addr conn position _ _ _ _ fresh =>
    have grown : Custody { s with
        allocated := s.allocated + 1, mp := s.mp.insertAt position addr s.allocated } :=
      custody.congr rfl custody.sound fun _ _ => id
    refine grown.put (fun ready => ?_) ?_ ?_
    · rw [fresh.state] at ready
      contradiction
    · rw [fresh.blob]
      nofun
    · rw [fresh.blob]
      nofun
  | refused found waiting idled => exact custody.keep found (sameHoldings_of_idled waiting idled)
  | @promoted m m' s _ p conn next constId fd _ _ _ _ _ _ _ _ unused promoted =>
    have registered := custody.registered unused p
    have owned : (s.descriptors.registered fd p).fdInfo.lookup s.descriptors.counter = some p := by
      rw [Descriptors.info_registered, if_pos rfl]
    obtain ⟨blob, contents, convToData, dataToConv, lru, -⟩ := promoted.blob
    have counted : Custody { s with
        readyNum := s.readyNum + 1, constIdMp := s.constIdMp.insert constId p
        descriptors := s.descriptors.registered fd p } :=
      registered.congr rfl registered.sound fun _ _ => id
    refine counted.put (fun _ => ?_) ?_ ?_
    · rw [promoted.timerFd64]
      have large : 2 ^ 32 - 1 < s.descriptors.counter := custody.sound.counter
      exact ⟨by omega, owned⟩
    · intro other there
      obtain rfl := Option.some.inj (contents.symm.trans there)
      exact ConvManager.linked_of_empty convToData dataToConv lru
    · intro other conv fd64 there used
      obtain rfl := Option.some.inj (contents.symm.trans there)
      rw [convToData] at used
      contradiction
  | @moved m m' s _ p q pOri pNew conn ori next idle _ _ _ _ found waiting _ other used _ _ _
      recovered idled =>
    have apart : p ≠ q := by
      rintro rfl
      obtain rfl := Option.some.inj (found.symm.trans other)
      rw [waiting] at used
      contradiction
    have swapped : (s.swapped ori.rawInfo.source conn.rawInfo.source pOri pNew).Custody :=
      custody.congr rfl custody.sound fun _ _ => id
    have first := swapped.keep (p := q) other (sameHoldings_of_recovered recovered)
    refine first.keep ?_ (sameHoldings_of_idled waiting idled)
    rw [heap_put_apply, if_neg apart]
    exact found
  | @openedConv m m' s _ p conn blob convs conv fd found contents unusedConv unused dataToConv
      convToData nodes =>
    have registered := custody.registered unused p
    have owned : (s.descriptors.registered fd p).fdInfo.lookup s.descriptors.counter = some p := by
      rw [Descriptors.info_registered, if_pos rfl]
    have linked := custody.linked p conn blob found contents
    have unknown {fd64 : Nat} (known : s.descriptors.fdInfo.lookup fd64 = some p) :
        s.descriptors.counter ≠ fd64 := by
      rintro rfl
      exact custody.sound.counter_unknown (custody.known known)
    have ready : conn.state = .ready := by
      by_contra idle
      rw [(tables.unready p conn found idle).1] at contents
      contradiction
    have timer := custody.timer p conn found ready
    refine registered.put (fun used => ?_) ?_ ?_
    · exact registered.timer p conn found used
    · intro other there
      obtain rfl := Option.some.inj there
      refine linked.insert unusedConv (fun known => ?_) dataToConv convToData nodes
      obtain ⟨old, there⟩ := Table.mem_iff_lookup.mp known
      have own := (custody.sockets p conn blob old _ found contents
        ((linked.inverse _ _).mpr there)).2
      exact unknown own rfl
    · intro other conv' fd64 there used
      obtain rfl := Option.some.inj there
      change convs.convToData.lookup conv' = some fd64 at used
      rw [convToData, Table.lookup_insert] at used
      split at used
      · obtain rfl := Option.some.inj used
        exact ⟨unknown timer.2, owned⟩
      · exact registered.sockets p conn blob conv' fd64 found contents used
  | @lostSocket m m' s _ p fd _ unused =>
    have registered := custody.registered unused p
    exact registered.congr rfl (registered.sound.sockClose fd) fun _ _ => id
  | evicted found contents erased => exact (custody.evicted found contents erased).1
  | erased _ erased => exact custody.erased (erase_iff.mp erased)
  | swept => exact custody.congr rfl custody.sound fun _ _ => id

/-! ### Numbers in use -/

/-- A server that starts has no numbers. -/
theorem used_start : Used (start : Server options) := by simp [Used, start, Descriptors.new]

/-- The numbers are used when connections keep what they use. -/
theorem Used.put (used : s.Used) {p : Ptr} {conn next : ServerConn options}
    (found : s.heap p = some conn) (same : SameHoldings conn next) : (s.put p next).Used := by
  intro fd64 fd q known open_ owned
  obtain ⟨other, there, needs⟩ := used fd64 fd q known open_ owned
  rw [heap_put_apply]
  split
  · rename_i here
    subst here
    obtain rfl := Option.some.inj (found.symm.trans there)
    exact ⟨next, rfl, same.needs needs⟩
  · exact ⟨other, there, needs⟩

/-- The other numbers are used as before when a descriptor is registered. -/
theorem Used.before (used : s.Used) (sound : s.descriptors.Sound) {fd64 fd otherFd : Nat}
    {p q : Ptr} (unused : s.descriptors.Unused fd) (different : fd64 ≠ s.descriptors.counter)
    (known : (s.descriptors.registered fd p).fd64ToFd.lookup fd64 = some otherFd)
    (open_ : otherFd ∈ (s.descriptors.registered fd p).opened)
    (owned : (s.descriptors.registered fd p).fdInfo.lookup fd64 = some q) :
    ∃ conn, s.heap q = some conn ∧ Needs conn fd64 := by
  rw [Descriptors.lookup_registered, if_neg different] at known
  rw [Descriptors.info_registered, if_neg different] at owned
  refine used fd64 otherFd q known ?_ owned
  have apart : otherFd ≠ fd := by
    rintro rfl
    exact unused.2 (Table.mem_iff_lookup.mpr ⟨fd64, (sound.inverse fd64 otherFd).mp known⟩)
  rw [Table.mem_iff_lookup, Descriptors.opened_registered, if_neg apart] at open_
  exact Table.mem_iff_lookup.mpr open_

/-- A registered descriptor is used when its owner takes it and keeps the others. -/
theorem Used.register (used : s.Used) (sound : s.descriptors.Sound) {p : Ptr} {fd : Nat}
    {next : ServerConn options} (unused : s.descriptors.Unused fd)
    (takes : Needs next s.descriptors.counter)
    (keeps : ∀ conn fd64, s.heap p = some conn → Needs conn fd64 → Needs next fd64) :
    ((s.withDescriptors (s.descriptors.registered fd p)).put p next).Used := by
  intro fd64 otherFd q known open_ owned
  rw [heap_put_apply]
  by_cases new : fd64 = s.descriptors.counter
  · change (s.descriptors.registered fd p).fdInfo.lookup fd64 = some q at owned
    rw [Descriptors.info_registered, if_pos new] at owned
    rw [if_pos (Option.some.inj owned).symm]
    exact ⟨next, rfl, new ▸ takes⟩
  · obtain ⟨other, there, needs⟩ := used.before sound unused new known open_ owned
    split
    · rename_i here
      subst here
      exact ⟨next, rfl, keeps other fd64 there needs⟩
    · exact ⟨other, there, needs⟩

/-- Closed numbers are used no more, when only their owner used them. -/
theorem Used.closed (used : s.Used) {gone : Nat → Prop}
    (heap : ∀ fd64 q conn, ¬gone fd64 → s.heap q = some conn → Needs conn fd64 →
      ∃ next, s'.heap q = some next ∧ Needs next fd64)
    (closed : Descriptors.Closed gone s.descriptors s'.descriptors) : s'.Used := by
  intro fd64 fd q known open_ owned
  have rest : ¬gone fd64 := fun lost =>
    closed.lost fd64 lost (Table.mem_iff_lookup.mpr ⟨fd, known⟩)
  rw [closed.fd64ToFd fd64 rest] at known
  rw [closed.fdInfo fd64 rest] at owned
  rw [Table.mem_iff_lookup, closed.opened fd64 fd rest known, ← Table.mem_iff_lookup] at open_
  obtain ⟨conn, found, needs⟩ := used fd64 fd q known open_ owned
  exact heap fd64 q conn rest found needs

/-- Every step uses the numbers of all open descriptors. -/
theorem Used.step {one two : Stage options} (step : Step one two) (tables : one.server.Tables)
    (custody : one.server.Custody) (used : one.server.Used) : two.server.Used := by
  cases step with
  | quiet | skipped | delivered => exact used
  | exchanged touches => exact used.put touches.found (sameHoldings_of_like touches.like)
  | replied touches => exact used.put touches.found (sameHoldings_of_like touches.like)
  | introduced touches => exact used.put touches.found (sameHoldings_of_like touches.like)
  | forwarded touches => exact used.put touches.found (sameHoldings_of_like touches.like)
  | @created m m' s =>
    intro fd64 fd q known open_ owned
    obtain ⟨other, there, needs⟩ := used fd64 fd q known open_ owned
    refine ⟨other, ?_, needs⟩
    rw [heap_put_apply, if_neg (Nat.ne_of_lt (tables.bound q other there))]
    exact there
  | refused found waiting idled => exact used.put found (sameHoldings_of_idled waiting idled)
  | @promoted m m' s _ p conn next constId fd _ _ _ found waiting _ _ _ unused promoted =>
    obtain ⟨blob, contents, -⟩ := promoted.blob
    have takes : Needs next s.descriptors.counter :=
      ⟨promoted.state, blob, contents, .inl promoted.timerFd64.symm⟩
    have keeps (other : ServerConn options) (fd64 : Nat) (there : s.heap p = some other)
        (needs : Needs other fd64) : Needs next fd64 := by
      obtain rfl := Option.some.inj (found.symm.trans there)
      rw [Needs, waiting] at needs
      exact absurd needs.1 nofun
    have registered : ((s.withDescriptors (s.descriptors.registered fd p)).put p next).Used :=
      used.register custody.sound unused takes keeps
    exact registered
  | @moved m m' s _ p q pOri pNew conn ori next idle _ _ _ _ found waiting _ other ready _ _ _
      recovered idled =>
    have apart : p ≠ q := by
      rintro rfl
      obtain rfl := Option.some.inj (found.symm.trans other)
      rw [waiting] at ready
      contradiction
    have swapped : (s.swapped ori.rawInfo.source conn.rawInfo.source pOri pNew).Used := used
    have first := swapped.put (p := q) other (sameHoldings_of_recovered recovered)
    refine first.put ?_ (sameHoldings_of_idled waiting idled)
    rw [heap_put_apply, if_neg apart]
    exact found
  | @openedConv m m' s _ p conn blob convs conv fd found contents unusedConv unused _ convToData =>
    have ready : conn.state = .ready := by
      by_contra idle
      rw [(tables.unready p conn found idle).1] at contents
      contradiction
    refine used.register custody.sound unused ⟨ready, _, rfl, .inr ⟨conv, ?_⟩⟩
      fun other fd64 there needs => ?_
    · show convs.convToData.lookup conv = _
      rw [convToData, Table.lookup_insert, if_pos rfl]
    · obtain rfl := Option.some.inj (found.symm.trans there)
      obtain ⟨-, old, before, use⟩ := needs
      obtain rfl := Option.some.inj (contents.symm.trans before)
      refine ⟨ready, _, rfl, use.imp id ?_⟩
      rintro ⟨other, known⟩
      refine ⟨other, ?_⟩
      show convs.convToData.lookup other = _
      rw [convToData, Table.lookup_insert, if_neg, known]
      rintro rfl
      exact unusedConv (Table.mem_iff_lookup.mpr ⟨fd64, known⟩)
  | @lostSocket m m' s _ p fd _ unused =>
    intro fd64 otherFd q known open_ owned
    obtain ⟨different, still⟩ := AList.mem_erase.mp open_
    refine used.before (p := p) custody.sound unused ?_ known still owned
    rintro rfl
    change (s.descriptors.registered fd p).fd64ToFd.lookup s.descriptors.counter = _ at known
    rw [Descriptors.lookup_registered, if_pos rfl] at known
    exact different (Option.some.inj known).symm
  | @evicted m s _ p conn blob convs descriptors found contents erased =>
    obtain ⟨-, conv, fd64, use, rfl, gone⟩ := custody.evicted found contents erased
    refine used.closed (fun other q conn' different there needs => ?_) gone
    rw [heap_put_apply]
    split
    · rename_i here
      subst here
      obtain rfl := Option.some.inj (found.symm.trans there)
      obtain ⟨ready, old, before, uses⟩ := needs
      obtain rfl := Option.some.inj (contents.symm.trans before)
      refine ⟨_, rfl, ready, _, rfl, uses.imp id ?_⟩
      rintro ⟨conv', known⟩
      refine ⟨conv', ?_⟩
      show (blob.convManager.convToData.erase conv).lookup conv' = _
      rw [Table.lookup_erase, if_neg, known]
      rintro rfl
      exact different (Option.some.inj (known.symm.trans use))
    · exact ⟨conn', there, needs⟩
  | @erased m s s' _ addr _ erased =>
    have memory {p q : Ptr} {conn : ServerConn options} (apart : q ≠ p)
        (there : s.heap q = some conn) : (s.free p).heap q = some conn := by
      simp only [free, Function.update_apply, if_neg apart]
      exact there
    cases erase_iff.mp erased with
    | @waiting p conn _ found waiting =>
      intro fd64 fd q known open_ owned
      obtain ⟨other, there, needs⟩ := used fd64 fd q known open_ owned
      refine ⟨other, memory ?_ there, needs⟩
      rintro rfl
      obtain rfl := Option.some.inj (found.symm.trans there)
      exact waiting needs.1
    | @ready p conn blob closed released _ found _ contents _ _ _ _ close cleared =>
      refine used.closed (fun fd64 q other rest there needs => ?_)
        (erased_closed custody close cleared)
      refine ⟨other, memory ?_ there, needs⟩
      rintro rfl
      obtain rfl := Option.some.inj (found.symm.trans there)
      obtain ⟨-, old, before, uses⟩ := needs
      obtain rfl := Option.some.inj (contents.symm.trans before)
      exact rest uses
  | swept => exact used

/-- Every step leaves the numbered descriptors open, unless `epoll` refused a socket. -/
theorem tracked_step {one two : Stage options} (step : Step one two)
    (sure : ∀ position, (one.machine.answers position).ok = true) (custody : one.server.Custody)
    (tracked : one.server.descriptors.Tracked) : two.server.descriptors.Tracked := by
  cases step with
  | promoted => exact tracked.registered _ _
  | openedConv => exact tracked.registered _ _
  | lostSocket refused =>
    obtain ⟨position, failed⟩ := refused
    have answered : _ = true := sure position
    rw [failed] at answered
    contradiction
  | evicted found contents erased =>
    obtain ⟨-, conv, fd64, -, -, gone⟩ := custody.evicted found contents erased
    exact gone.tracked tracked
  | erased _ erased =>
    cases erase_iff.mp erased with
    | waiting => exact tracked
    | ready _ _ _ _ _ _ _ _ close cleared =>
      exact (erased_closed custody close cleared).tracked tracked
  | _ => exact tracked

/-! ### The clock -/

/-- No conversation was used after the present time. -/
def Early (machine : Machine v) (server : Server options) : Prop :=
  ∀ p conn blob, server.heap p = some conn → conn.blob = some blob →
    blob.convManager.lru.NotAfter machine.now

/-- A stored connection of the present. -/
theorem Early.put (early : Early m s) (clock : m.now ≤ m'.now) {p : Ptr}
    {next : ServerConn options}
    (contents : ∀ blob, next.blob = some blob → blob.convManager.lru.NotAfter m'.now) :
    Early m' (s.put p next) := by
  intro q conn blob found inside
  rw [heap_put_apply] at found
  split at found
  · obtain rfl := Option.some.inj found
    exact contents blob inside
  · exact (early q conn blob found inside).mono clock

/-- A connection that goes on was not used later than now. -/
theorem Early.touch (early : Early m s) (clock : m.now ≤ m'.now) {p : Ptr}
    {conn next : ServerConn options} (touches : s.Touches p conn next m.now m'.now) :
    Early m' (s.put p next) := by
  refine early.put clock fun blob inside => ?_
  have like := touches.like.blob
  rw [inside] at like
  obtain ⟨old, before, same⟩ := ConnInfo.rel_to_some like
  exact same.early (early p conn old touches.found before)

/-- Every step keeps the conversations in the past. -/
theorem Early.step {one two : Stage options} (step : Step one two)
    (early : Early one.machine one.server) : Early two.machine two.server := by
  cases step with
  | quiet _ went =>
    exact fun p conn blob found inside => (early p conn blob found inside).mono went.now
  | skipped => exact early
  | delivered _ _ _ _ _ _ went =>
    exact fun p conn blob found inside => (early p conn blob found inside).mono went.now
  | exchanged touches _ went => exact early.touch went.now touches
  | replied touches _ _ _ _ went => exact early.touch went.now touches
  | introduced touches => exact early.touch (Nat.le_refl _) touches
  | forwarded touches _ _ _ _ _ _ went => exact early.touch went.now touches
  | @created m m' s _ addr conn position _ _ _ _ fresh _ went =>
    have grown : Early m { s with
        allocated := s.allocated + 1, mp := s.mp.insertAt position addr s.allocated } := early
    refine grown.put went.now ?_
    rw [fresh.blob]
    nofun
  | @refused m s _ p conn next found _ idled =>
    refine early.put (Nat.le_refl _) fun blob inside => ?_
    rw [idled.blob] at inside
    exact early p conn blob found inside
  | @promoted m m' s _ p conn next constId fd _ _ _ _ _ _ _ _ _ promoted _ went =>
    have counted : Early m { s with
        readyNum := s.readyNum + 1, constIdMp := s.constIdMp.insert constId p
        descriptors := s.descriptors.registered fd p } := early
    refine counted.put went.now fun blob inside => ?_
    obtain ⟨new, contents, -, -, lru, -⟩ := promoted.blob
    obtain rfl := Option.some.inj (contents.symm.trans inside)
    rw [lru]
    exact nofun
  | @moved m m' s _ p q pOri pNew conn ori next idle _ _ _ _ found _ _ other _ _ _ _ recovered
      idled _ went =>
    have swapped : Early m (s.swapped ori.rawInfo.source conn.rawInfo.source pOri pNew) := early
    obtain ⟨old, new, before, after, like, -⟩ := recovered.blob
    have first : Early m' ((s.swapped ori.rawInfo.source conn.rawInfo.source pOri pNew).put q
        next) := by
      refine swapped.put went.now fun blob inside => ?_
      obtain rfl := Option.some.inj (after.symm.trans inside)
      exact like.early (early q ori old other before)
    refine first.put (Nat.le_refl _) fun blob inside => ?_
    rw [idled.blob] at inside
    exact (early p conn blob found inside).mono went.now
  | @openedConv m m' s _ p conn blob convs _ fd found contents _ _ _ _ _ used went =>
    have registered : Early m (s.withDescriptors (s.descriptors.registered fd p)) := early
    refine registered.put went.now fun other inside => ?_
    obtain rfl := Option.some.inj inside
    exact used (early p conn blob found contents)
  | lostSocket _ _ went =>
    exact fun p conn blob found inside => (early p conn blob found inside).mono went.now
  | @evicted m s _ p conn blob convs descriptors found contents erased =>
    have released : Early m (s.withDescriptors descriptors) := early
    refine released.put (Nat.le_refl _) fun other inside => ?_
    obtain rfl := Option.some.inj inside
    exact erased.notAfter (early p conn blob found contents)
  | erased _ erased =>
    intro q conn blob found inside
    have there : _ = some conn := (erase_iff.mp erased).heap found
    exact early q conn blob there inside
  | swept => exact early

end Server

/-- Every connection of a reachable server owns its descriptors. -/
theorem Reachable.custody {standing : Standing} {answers : Nat → Answer v} {filterPort : UInt16}
    {state : Machine v × Server options}
    (reachable : Reachable options standing answers filterPort state) : state.2.Custody :=
  (reachable.holds (fun _ server => server.Tables ∧ server.Custody)
    ⟨tables_start, custody_start⟩ (fun _ => id) (fun _ => id)
    fun step ⟨tables, custody⟩ => ⟨tables.step step, custody.step step tables⟩).2

end Udp2raw
