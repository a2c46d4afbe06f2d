import Udp2raw.Server.Assertions
import Udp2raw.Server.Safety

/-!
# Accounts of the descriptors

What the kernel has open for the server is what the ready connections use: one timer each, and
one socket for each of their conversations. Nothing leaks when a conversation is closed, an
entry is erased, a client comes back or `epoll` refuses a socket, although `fd_manager` keeps the
number of a refused socket.
-/
namespace Udp2raw

open Server

variable {v : IpVersion} {options : Options v} {m m' : Machine v} {s s' : Server options}

namespace Descriptors

variable {descriptors next : Descriptors} {fd64 fd : Nat} {p : Ptr}

/-- Every open descriptor has a number. -/
def Numbered (descriptors : Descriptors) : Prop :=
  ∀ fd ∈ descriptors.opened, fd ∈ descriptors.fdToFd64

/-- A number stands for a descriptor that is open. -/
def Backed (descriptors : Descriptors) (fd64 : Nat) : Prop :=
  ∃ fd, descriptors.fd64ToFd.lookup fd64 = some fd ∧ fd ∈ descriptors.opened

/-- A registered descriptor has a number. -/
theorem Numbered.registered (numbered : descriptors.Numbered) (fd : Nat) (p : Ptr) :
    (descriptors.registered fd p).Numbered := by
  intro other open_
  apply (AList.mem_insert _).mpr
  rcases (AList.mem_insert _).mp open_ with same | before
  · exact .inl same
  · exact .inr (numbered other before)

/-- A descriptor that the kernel closed is no longer open. -/
theorem Numbered.sockClose (numbered : descriptors.Numbered) (fd : Nat) :
    (descriptors.sockClose fd).Numbered := by
  intro other open_
  have before : other ∈ descriptors.opened := (AList.mem_erase.mp open_).2
  exact numbered other before

/-- A number is closed together with its descriptor. -/
theorem Numbered.close (numbered : descriptors.Numbered)
    (closed : descriptors.fd64Close fd64 = .ok next) : next.Numbered := by
  obtain ⟨fd, -, rfl⟩ := fd64Close_iff.mp closed
  intro other open_
  have left : other ≠ fd ∧ other ∈ descriptors.opened := AList.mem_erase.mp open_
  exact AList.mem_erase.mpr ⟨left.1, numbered other left.2⟩

/-- The numbers of a list are closed together with their descriptors. -/
theorem Numbered.closeAll {numbers : List Nat} (numbered : descriptors.Numbered)
    (cleared : numbers.foldlM (fun descriptors fd64 => serverClearFunction fd64 descriptors)
      descriptors = .ok next) : next.Numbered := by
  induction numbers generalizing descriptors with
  | nil =>
    have same : descriptors = next := Except.ok.inj cleared
    rwa [← same]
  | cons first rest ih =>
    rw [List.foldlM_cons, exec_bind_iff] at cleared
    obtain ⟨between, closed, cleared⟩ := cleared
    have one : between.Numbered := numbered.close (serverClearFunction_iff.mp closed)
    exact ih one cleared

/-- A known number stays backed when a descriptor is registered. -/
theorem Backed.registered (backed : descriptors.Backed fd64) (sound : descriptors.Sound) (fd : Nat)
    (p : Ptr) : (descriptors.registered fd p).Backed fd64 := by
  obtain ⟨other, known, open_⟩ := backed
  have different : fd64 ≠ descriptors.counter := by
    rintro rfl
    exact sound.counter_unknown (Table.mem_iff_lookup.mpr ⟨other, known⟩)
  refine ⟨other, ?_, (AList.mem_insert _).mpr (.inr open_)⟩
  rw [lookup_registered, if_neg different]
  exact known

/-- A new number is backed. -/
theorem backed_counter (fd : Nat) (p : Ptr) :
    (descriptors.registered fd p).Backed descriptors.counter := by
  refine ⟨fd, ?_, (AList.mem_insert _).mpr (.inl rfl)⟩
  rw [lookup_registered, if_pos rfl]

/-- A backed number stays backed when a new descriptor is registered and closed again. -/
theorem Backed.lost (backed : descriptors.Backed fd64) (sound : descriptors.Sound)
    (unused : descriptors.Unused fd) (p : Ptr) :
    ((descriptors.registered fd p).sockClose fd).Backed fd64 := by
  obtain ⟨old, knownOld, openOld⟩ := backed
  obtain ⟨other, known, open_⟩ := Backed.registered ⟨old, knownOld, openOld⟩ sound fd p
  have different : fd64 ≠ descriptors.counter := by
    rintro rfl
    exact sound.counter_unknown (Table.mem_iff_lookup.mpr ⟨old, knownOld⟩)
  have same : old = other := by
    rw [lookup_registered, if_neg different, knownOld] at known
    exact Option.some.inj known
  have apart : other ≠ fd := by
    rintro rfl
    exact unused.1 (same ▸ openOld)
  exact ⟨other, known, AList.mem_erase.mpr ⟨apart, open_⟩⟩

/-- A number that was not closed stays backed. -/
theorem Closed.backed {gone : Nat → Prop} {before after : Descriptors}
    (closed : Closed gone before after) (rest : ¬gone fd64) (backed : before.Backed fd64) :
    after.Backed fd64 := by
  obtain ⟨fd, known, open_⟩ := backed
  refine ⟨fd, (closed.fd64ToFd fd64 rest).trans known, ?_⟩
  rw [Table.mem_iff_lookup, closed.opened fd64 fd rest known, ← Table.mem_iff_lookup]
  exact open_

end Descriptors

namespace Server

/-- What is open and what the connections use are the same. -/
structure Accounted (server : Server options) : Prop where
  /-- Every open descriptor has a number. -/
  numbered : server.descriptors.Numbered
  /-- What a connection uses is open. -/
  backed : ∀ p conn fd64, server.heap p = some conn → Needs conn fd64 →
    server.descriptors.Backed fd64

/-- A server that starts uses nothing. -/
theorem accounted_start : Accounted (start : Server options) where
  numbered := by simp [Descriptors.Numbered, start, Descriptors.new]
  backed := by simp [start]

/-- A connection that keeps what it owns used it before. -/
theorem SameHoldings.needed {conn next : ServerConn options} (same : SameHoldings conn next)
    {fd64 : Nat} (needs : Needs next fd64) : Needs conn fd64 := by
  obtain ⟨ready, blob, contents, used⟩ := needs
  have convs := same.convs
  rw [contents] at convs
  obtain ⟨other, before, link⟩ := ConnInfo.rel_to_some convs
  refine ⟨same.ready.mp ready, other, before, ?_⟩
  rw [← same.timerFd64, ← link.convToData]
  exact used

/-- A connection without conversations uses nothing. -/
theorem not_needs {conn : ServerConn options} (empty : conn.blob = none) {fd64 : Nat} :
    ¬Needs conn fd64 := by
  rintro ⟨-, blob, contents, -⟩
  rw [empty] at contents
  contradiction

/-- The accounts are right when a stored connection uses only what is open. -/
theorem Accounted.put (accounted : s.Accounted) {p : Ptr} {next : ServerConn options}
    (backed : ∀ fd64, Needs next fd64 → s.descriptors.Backed fd64) : (s.put p next).Accounted where
  numbered := accounted.numbered
  backed q conn fd64 found needs := by
    rw [heap_put_apply] at found
    split at found
    · have same : next = conn := Option.some.inj found
      exact backed fd64 (same ▸ needs)
    · exact accounted.backed q conn fd64 found needs

/-- A stored connection that keeps what it owns. -/
theorem Accounted.keep (accounted : s.Accounted) {p : Ptr} {conn next : ServerConn options}
    (found : s.heap p = some conn) (same : SameHoldings conn next) : (s.put p next).Accounted :=
  accounted.put fun fd64 needs => accounted.backed p conn fd64 found (same.needed needs)

/-- A registered descriptor waits for the connection that takes it. -/
theorem Accounted.registered (accounted : s.Accounted) (custody : s.Custody) (fd : Nat) (p : Ptr) :
    (s.withDescriptors (s.descriptors.registered fd p)).Accounted where
  numbered := accounted.numbered.registered fd p
  backed q conn fd64 found needs :=
    (accounted.backed q conn fd64 found needs).registered custody.sound fd p

/-- The accounts are right when numbers are closed that nobody uses any more. -/
theorem Accounted.closed (accounted : s.Accounted) {gone : Nat → Prop}
    (numbered : s'.descriptors.Numbered)
    (heap : ∀ fd64 q next, s'.heap q = some next → Needs next fd64 →
      ¬gone fd64 ∧ ∃ conn, s.heap q = some conn ∧ Needs conn fd64)
    (closed : Descriptors.Closed gone s.descriptors s'.descriptors) : s'.Accounted where
  numbered := numbered
  backed q next fd64 there needs := by
    obtain ⟨rest, conn, found, used⟩ := heap fd64 q next there needs
    exact closed.backed rest (accounted.backed q conn fd64 found used)

/-- What a connection uses is registered under its name. -/
theorem Custody.needs (custody : s.Custody) {p : Ptr} {conn : ServerConn options} {fd64 : Nat}
    (found : s.heap p = some conn) (needs : Needs conn fd64) :
    s.descriptors.fdInfo.lookup fd64 = some p := by
  obtain ⟨ready, blob, contents, rfl | ⟨conv, used⟩⟩ := needs
  · exact (custody.timer p conn found ready).2
  · exact (custody.sockets p conn blob conv fd64 found contents used).2

/-- The accounts after an idle conversation was closed. -/
theorem Accounted.evicted (accounted : s.Accounted) (custody : s.Custody) {p : Ptr}
    {conn : ServerConn options} {blob : Blob Nat} {convs : ConvManager Nat}
    {descriptors : Descriptors} (found : s.heap p = some conn) (contents : conn.blob = some blob)
    (erased : ConvManager.Erased serverClearFunction (blob.convManager, s.descriptors)
      (convs, descriptors)) :
    ((s.withDescriptors descriptors).put p (conn.withConvs blob convs)).Accounted := by
  obtain ⟨owned, conv, fd64, use, rfl, gone⟩ := custody.evicted found contents erased
  have released : descriptors.Numbered := by
    obtain ⟨_, _, _, closed, -⟩ := erased.released (custody.linked p conn blob found contents)
    exact accounted.numbered.close (Descriptors.serverClearFunction_iff.mp closed)
  refine accounted.closed released (fun other q next there needs => ?_) gone
  have own := owned.needs there needs
  have left : ¬other = fd64 := by
    rintro rfl
    have known := owned.known own
    exact gone.lost other rfl known
  rw [heap_put_apply] at there
  split at there
  · rename_i here
    subst here
    have same := Option.some.inj there
    subst same
    obtain ⟨ready, _, after, uses⟩ := needs
    obtain rfl := Option.some.inj after
    refine ⟨left, conn, found, ready, blob, contents, uses.imp id ?_⟩
    rintro ⟨conv', known⟩
    change (blob.convManager.convToData.erase conv).lookup conv' = some other at known
    rw [Table.lookup_erase] at known
    split at known
    · contradiction
    · exact ⟨conv', known⟩
  · exact ⟨left, next, there, needs⟩

/-- The accounts after an entry was erased. -/
theorem Accounted.erased (accounted : s.Accounted) (custody : s.Custody) {addr : Address v}
    (erases : s.Erases addr s') : s'.Accounted := by
  have left {p q : Ptr} {conn : ServerConn options} (found : (s.free p).heap q = some conn) :
      q ≠ p ∧ s.heap q = some conn := by
    simp only [free, Function.update_apply] at found
    split at found
    · contradiction
    · rename_i different
      exact ⟨different, found⟩
  cases erases with
  | waiting =>
    refine ⟨accounted.numbered, fun q conn fd64 there needs => ?_⟩
    exact accounted.backed q conn fd64 (left there).2 needs
  | @ready p conn blob closed released _ found ready contents _ _ _ _ close cleared =>
    have numbered : released.Numbered := by
      have one : closed.Numbered := accounted.numbered.close close
      rw [Descriptors.clearAll_eq] at cleared
      exact one.closeAll cleared
    refine accounted.closed numbered (fun fd64 q next there needs => ?_)
      (erased_closed custody close cleared)
    have before := left there
    refine ⟨fun gone => ?_, next, before.2, needs⟩
    have mine : Needs conn fd64 := ⟨ready, blob, contents, gone⟩
    have one := custody.needs found mine
    rw [custody.needs before.2 needs] at one
    exact before.1 (Option.some.inj one)

/-- Every step keeps the accounts, whatever the system answers. -/
theorem Accounted.step {one two : Stage options} (step : Step one two) (tables : one.server.Tables)
    (custody : one.server.Custody) (accounted : one.server.Accounted) : two.server.Accounted := by
  cases step with
  | quiet | skipped | delivered => exact accounted
  | exchanged touches => exact accounted.keep touches.found (sameHoldings_of_like touches.like)
  | replied touches => exact accounted.keep touches.found (sameHoldings_of_like touches.like)
  | introduced touches => exact accounted.keep touches.found (sameHoldings_of_like touches.like)
  | forwarded touches => exact accounted.keep touches.found (sameHoldings_of_like touches.like)
  | @created m m' s _ addr conn position _ _ _ _ fresh =>
    have grown : Accounted { s with
        allocated := s.allocated + 1, mp := s.mp.insertAt position addr s.allocated } :=
      ⟨accounted.numbered, accounted.backed⟩
    exact grown.put fun fd64 needs => absurd needs (not_needs fresh.blob)
  | refused found waiting idled => exact accounted.keep found (sameHoldings_of_idled waiting idled)
  | @promoted m m' s _ p conn next constId fd _ _ _ _ _ _ _ _ _ promoted =>
    have registered := accounted.registered custody fd p
    have counted : Accounted { s with
        readyNum := s.readyNum + 1, constIdMp := s.constIdMp.insert constId p
        descriptors := s.descriptors.registered fd p } :=
      ⟨registered.numbered, registered.backed⟩
    refine counted.put ?_
    -- it uses its timer only
    rintro fd64 ⟨-, blob, contents, timer | ⟨conv, used⟩⟩
    · rw [timer, promoted.timerFd64]
      exact Descriptors.backed_counter fd p
    · obtain ⟨_, same, convToData, -⟩ := promoted.blob
      obtain rfl := Option.some.inj (same.symm.trans contents)
      rw [convToData] at used
      contradiction
  | @moved m m' s _ p q pOri pNew conn ori next idle _ _ _ _ found waiting _ other used _ _ _
      recovered idled =>
    have swapped : (s.swapped ori.rawInfo.source conn.rawInfo.source pOri pNew).Accounted :=
      ⟨accounted.numbered, accounted.backed⟩
    have first := swapped.keep (p := q) other (sameHoldings_of_recovered recovered)
    have empty := (tables.unready p conn found (by rw [waiting]; nofun)).1
    exact first.put fun fd64 needs => absurd needs (not_needs (idled.blob.trans empty))
  | @openedConv m m' s _ p conn blob convs conv fd found contents _ _ _ convToData =>
    refine (accounted.registered custody fd p).put ?_
    have ready : conn.state = .ready := by
      by_contra idle
      rw [(tables.unready p conn found idle).1] at contents
      contradiction
    have before {fd64 : Nat} (needs : Needs conn fd64) :
        (s.descriptors.registered fd p).Backed fd64 :=
      (accounted.backed p conn fd64 found needs).registered custody.sound fd p
    rintro fd64 ⟨-, blob', after, timer | ⟨conv', used⟩⟩
    · exact before ⟨ready, blob, contents, .inl timer⟩
    · obtain rfl := Option.some.inj after
      change convs.convToData.lookup conv' = some fd64 at used
      rw [convToData, Table.lookup_insert] at used
      split at used
      · rw [← Option.some.inj used]
        exact Descriptors.backed_counter fd p
      · exact before ⟨ready, blob, contents, .inr ⟨conv', used⟩⟩
  | @lostSocket m m' s _ p fd _ unused =>
    refine ⟨(accounted.numbered.registered fd p).sockClose fd, fun q conn fd64 found needs => ?_⟩
    exact (accounted.backed q conn fd64 found needs).lost custody.sound unused p
  | evicted found contents erased => exact accounted.evicted custody found contents erased
  | erased _ erased => exact accounted.erased custody (erase_iff.mp erased)
  | swept => exact ⟨accounted.numbered, accounted.backed⟩

/-! ### Counting -/

/-- The numbers of a connection: its timer and the sockets of its conversations. -/
def heldBy (conn : ServerConn options) : List Nat :=
  match conn.blob with
  | none => []
  | some blob => conn.timerFd64 :: blob.convManager.convToData.entries.map Sigma.snd

/-- The numbers of the ready connections. -/
def held (server : Server options) : List Nat :=
  (server.constIdMp.entries.map Sigma.snd).flatMap fun p => (server.heap p).elim [] heldBy

/-- The number of conversations of the connection behind a pointer. -/
def convCount (server : Server options) (p : Ptr) : Nat :=
  match server.heap p with
  | none => 0
  | some conn =>
    match conn.blob with
    | none => 0
    | some blob => blob.convManager.getSize

/-- The clients know what the ready connections use. -/
theorem mem_held (tables : s.Tables) {fd64 : Nat} :
    fd64 ∈ s.held ↔ ∃ p conn, s.heap p = some conn ∧ Needs conn fd64 := by
  simp only [held, List.mem_flatMap, mem_values]
  constructor
  · rintro ⟨p, ⟨constId, known⟩, inside⟩
    obtain ⟨conn, found, ready, -⟩ := tables.client constId p known
    rw [found, Option.elim_some, heldBy] at inside
    split at inside
    · contradiction
    · rename_i blob contents
      refine ⟨p, conn, found, ready, blob, contents, ?_⟩
      rw [List.mem_cons, ConvManager.mem_data_iff] at inside
      exact inside
  · rintro ⟨p, conn, found, ready, blob, contents, used⟩
    refine ⟨p, ⟨conn.oppsiteConstId, (tables.ready p conn found ready).2⟩, ?_⟩
    rw [found, Option.elim_some, heldBy, contents]
    rw [← ConvManager.mem_data_iff, ← List.mem_cons] at used
    exact used

/-- No number is used twice. -/
theorem held_nodup (tables : s.Tables) (custody : s.Custody) : s.held.Nodup := by
  -- a connection is known by one client
  have pointers : (s.constIdMp.entries.map Sigma.snd).Nodup := by
    refine nodup_values fun constId other p first second => ?_
    obtain ⟨conn, found, -, rfl⟩ := tables.client constId p first
    obtain ⟨_, found', -, rfl⟩ := tables.client other p second
    rw [Option.some.inj (found.symm.trans found')]
  have owner {p : Ptr} {fd64 : Nat} (inside : p ∈ s.constIdMp.entries.map Sigma.snd)
      (used : fd64 ∈ (s.heap p).elim [] heldBy) : s.descriptors.fdInfo.lookup fd64 = some p := by
    obtain ⟨constId, known⟩ := mem_values.mp inside
    obtain ⟨conn, found, ready, -⟩ := tables.client constId p known
    rw [found, Option.elim_some, heldBy] at used
    split at used
    · contradiction
    · rename_i blob contents
      rw [List.mem_cons, ConvManager.mem_data_iff] at used
      exact custody.needs found ⟨ready, blob, contents, used⟩
  rw [held, List.nodup_flatMap]
  constructor
  · intro p inside
    obtain ⟨constId, known⟩ := mem_values.mp inside
    obtain ⟨conn, found, -⟩ := tables.client constId p known
    rw [found, Option.elim_some, heldBy]
    split
    · exact List.nodup_nil
    · rename_i blob contents
      have linked := custody.linked p conn blob found contents
      refine List.nodup_cons.mpr ⟨fun timer => ?_, linked.data_nodup⟩
      obtain ⟨conv, used⟩ := ConvManager.mem_data_iff.mp timer
      exact (custody.sockets p conn blob conv _ found contents used).1 rfl
  · refine pointers.imp_of_mem ?_
    intro p q inP inQ different fd64 atP atQ
    have one := owner inP atP
    rw [owner inQ atQ] at one
    exact different (Option.some.inj one).symm

/-- A ready connection uses one number for itself and one for each conversation. -/
theorem length_held (tables : s.Tables) :
    s.held.length =
      s.constIdMp.size + ((s.constIdMp.entries.map Sigma.snd).map s.convCount).sum := by
  have each (p : Ptr) (inside : p ∈ s.constIdMp.entries.map Sigma.snd) :
      ((s.heap p).elim [] heldBy).length = 1 + s.convCount p := by
    obtain ⟨constId, known⟩ := mem_values.mp inside
    obtain ⟨conn, found, ready, -⟩ := tables.client constId p known
    obtain ⟨blob, contents⟩ := Option.isSome_iff_exists.mp (tables.ready p conn found ready).1
    simp only [convCount, found, Option.elim_some, heldBy, contents, List.length_cons,
      List.length_map, ConvManager.getSize, Table.size, Nat.add_comm]
  rw [held, List.length_flatMap, List.map_congr_left each, List.sum_map_add]
  simp [Table.size, Function.comp_def]

/-- The open descriptors, by their numbers, are what the ready connections use. -/
theorem opened_perm (tables : s.Tables) (custody : s.Custody) (used : s.Used)
    (accounted : s.Accounted) :
    (s.descriptors.opened.keys.map fun fd => (s.descriptors.fdToFd64.lookup fd).getD 0).Perm
      s.held := by
  have number {fd : Nat} (open_ : fd ∈ s.descriptors.opened.keys) :
      ∃ fd64, s.descriptors.fdToFd64.lookup fd = some fd64 ∧
        s.descriptors.fd64ToFd.lookup fd64 = some fd := by
    obtain ⟨fd64, known⟩ := Table.mem_iff_lookup.mp (accounted.numbered fd open_)
    exact ⟨fd64, known, (custody.sound.inverse fd64 fd).mpr known⟩
  have distinct : (s.descriptors.opened.keys.map
      fun fd => (s.descriptors.fdToFd64.lookup fd).getD 0).Nodup := by
    refine List.Nodup.map_on (fun one inOne two inTwo same => ?_) s.descriptors.opened.keys_nodup
    obtain ⟨first, known, back⟩ := number inOne
    obtain ⟨second, known', back'⟩ := number inTwo
    rw [known, known'] at same
    have equal : first = second := same
    rw [equal, back'] at back
    exact (Option.some.inj back).symm
  refine (List.perm_ext_iff_of_nodup distinct (held_nodup tables custody)).mpr fun fd64 => ?_
  rw [List.mem_map, mem_held tables]
  constructor
  · rintro ⟨fd, open_, rfl⟩
    obtain ⟨fd64, known, back⟩ := number open_
    obtain ⟨p, owned⟩ := Table.mem_iff_lookup.mp
      ((custody.sound.info fd64).mpr (Table.mem_iff_lookup.mpr ⟨fd, back⟩))
    rw [known]
    exact ⟨p, used fd64 fd p back open_ owned⟩
  · rintro ⟨p, conn, found, needs⟩
    obtain ⟨fd, known, open_⟩ := accounted.backed p conn fd64 found needs
    refine ⟨fd, open_, ?_⟩
    rw [(custody.sound.inverse fd64 fd).mp known]
    rfl

end Server

/-- The accounts of a reachable server are right. -/
theorem Reachable.accounted {standing : Standing} {answers : Nat → Answer v} {filterPort : UInt16}
    {state : Machine v × Server options}
    (reachable : Reachable options standing answers filterPort state) : state.2.Accounted := by
  have kept := reachable.holds
    (fun _ server => (server.Tables ∧ server.Custody) ∧ server.Accounted)
    ⟨⟨tables_start, custody_start⟩, accounted_start⟩ (fun _ => id) (fun _ => id) ?_
  · exact kept.2
  · intro one two step before
    have tables : one.server.Tables := before.1.1
    have custody : one.server.Custody := before.1.2
    exact ⟨⟨tables.step step, custody.step step tables⟩, before.2.step step tables custody⟩

/-- Whatever the system calls answer, the server never leaks a descriptor: as many are open as
there are ready connections and conversations of them, and each is the timer of a ready connection
or the socket of one of its conversations, for which it is the only one. -/
theorem Reachable.no_leak {standing : Standing} {answers : Nat → Answer v} {filterPort : UInt16}
    {state : Machine v × Server options}
    (reachable : Reachable options standing answers filterPort state) :
    state.2.descriptors.opened.size = state.2.readyNum.toNat +
        ((state.2.constIdMp.entries.map Sigma.snd).map state.2.convCount).sum ∧
      (∀ fd, fd ∈ state.2.descriptors.opened ↔ ∃ fd64 ∈ state.2.held,
        state.2.descriptors.fd64ToFd.lookup fd64 = some fd) ∧
      state.2.held.Nodup ∧
      ∀ one ∈ state.2.held, ∀ two ∈ state.2.held,
        state.2.descriptors.fd64ToFd.lookup one = state.2.descriptors.fd64ToFd.lookup two →
        one = two := by
  have tables := reachable.tables
  have custody := reachable.custody
  have accounted := reachable.accounted
  have used : state.2.Used := reachable.intact.used
  have backed {fd64 : Nat} (inside : fd64 ∈ state.2.held) : state.2.descriptors.Backed fd64 := by
    obtain ⟨p, conn, found, needs⟩ := (mem_held tables).mp inside
    exact accounted.backed p conn fd64 found needs
  refine ⟨?_, fun fd => ⟨fun open_ => ?_, ?_⟩, held_nodup tables custody, ?_⟩
  · have count := (opened_perm tables custody used accounted).length_eq
    rw [List.length_map, length_held tables, ← tables.readyNum] at count
    have keys : state.2.descriptors.opened.keys.length = state.2.descriptors.opened.size := by
      simp [AList.keys, List.keys, Table.size]
    rw [← keys]
    exact count
  · obtain ⟨fd64, known⟩ := Table.mem_iff_lookup.mp (accounted.numbered fd open_)
    have back := (custody.sound.inverse fd64 fd).mpr known
    obtain ⟨p, owned⟩ := Table.mem_iff_lookup.mp
      ((custody.sound.info fd64).mpr (Table.mem_iff_lookup.mpr ⟨fd, back⟩))
    exact ⟨fd64, (mem_held tables).mpr ⟨p, used fd64 fd p back open_ owned⟩, back⟩
  · rintro ⟨fd64, inside, known⟩
    obtain ⟨other, stands, open_⟩ := backed inside
    rw [Option.some.inj (known.symm.trans stands)]
    exact open_
  · intro one inOne two inTwo same
    obtain ⟨fd, known, -⟩ := backed inOne
    rw [known] at same
    exact Table.Inverse.key_unique custody.sound.inverse same.symm known

/-- After the handshakes of one client the timer of its connection is open and nothing else. -/
theorem no_leak_seven : (readyFor 7).2.descriptors.opened.size = 1 := by
  have counted : (readyFor 7).2.readyNum.toNat +
      (((readyFor 7).2.constIdMp.entries.map Sigma.snd).map (readyFor 7).2.convCount).sum = 1 := by
    decide +kernel
  exact (Reachable.no_leak readyForSeven_reachable).1.trans counted

end Udp2raw
