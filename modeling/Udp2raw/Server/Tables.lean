import Udp2raw.Server.Loop

/-!
# The connection tables of the server

The tables of `conn_manager` agree with the connections in memory: an address has one
entry, an entry that is in use sends to and receives from its address, and a client has one
ready connection, which the table by `const_id` and the counter of ready connections know.
A recovery leaves an idle entry behind that was last heard from the other address, so the
addresses bind only the entries that are not idle.
-/
namespace Udp2raw

open Proc ServerProc Server

variable {v : IpVersion} {options : Options v} {m m' : Machine v} {s s' : Server options}

namespace Server

/-- The tables of the server agree with the connections in memory. -/
structure Tables (server : Server options) : Prop where
  /-- An entry is in memory. -/
  allocated : ∀ addr p, server.mp.lookup addr = some p → ∃ conn, server.heap p = some conn
  /-- What is in memory has an entry. -/
  filed : ∀ p conn, server.heap p = some conn → ∃ addr, server.mp.lookup addr = some p
  /-- Two addresses have different entries. -/
  distinct : ∀ addr other p, server.mp.lookup addr = some p → server.mp.lookup other = some p →
    addr = other
  /-- Memory that is not allocated yet is free. -/
  bound : ∀ p conn, server.heap p = some conn → p < server.allocated
  /-- An entry that is not idle has its address as its peer. -/
  peer : ∀ addr p conn, server.mp.lookup addr = some p → server.heap p = some conn →
    conn.state ≠ .idle → conn.rawInfo.source = addr ∧ conn.rawInfo.destination = addr
  /-- Every connection is there to receive packets. -/
  peek : ∀ p conn, server.heap p = some conn → conn.rawInfo.peek = false
  /-- A connection that is not ready has nothing of a ready one. -/
  unready : ∀ p conn, server.heap p = some conn → conn.state ≠ .ready →
    conn.blob = none ∧ conn.timerFd64 = 0 ∧ conn.oppsiteConstId = 0
  /-- A ready connection has its contents and is known by its client. -/
  ready : ∀ p conn, server.heap p = some conn → conn.state = .ready →
    conn.blob.isSome ∧ server.constIdMp.lookup conn.oppsiteConstId = some p
  /-- What is known by a client is its ready connection. -/
  client : ∀ constId p, server.constIdMp.lookup constId = some p →
    ∃ conn, server.heap p = some conn ∧ conn.state = .ready ∧ conn.oppsiteConstId = constId
  /-- The ready connections are counted. -/
  readyNum : server.readyNum.toNat = server.constIdMp.size
  /-- There are not too many ready connections. -/
  readyMax : server.constIdMp.size ≤ maxReadyConnNum
  /-- There are not too many entries. -/
  entriesMax : server.mp.size ≤ maxHandshakeConnNum

/-- The connections after one was stored. -/
theorem heap_put_apply {p q : Ptr} {conn : ServerConn options} :
    (s.put p conn).heap q = if q = p then some conn else s.heap q := by
  simp [put, Function.update_apply]

/-- A server that starts has empty tables. -/
theorem tables_start : Tables (start : Server options) where
  allocated := by simp [start]
  filed := by simp [start]
  distinct := by simp [start]
  bound := by simp [start]
  peer := by simp [start]
  peek := by simp [start]
  unready := by simp [start]
  ready := by simp [start]
  client := by simp [start]
  readyNum := rfl
  readyMax := by simp [start, Table.size]
  entriesMax := by simp [start, Table.size]

/-- The descriptors are no part of the tables, and neither is the place of the sweep. -/
theorem Tables.congr (tables : s.Tables) (heap : s'.heap = s.heap)
    (allocated : s'.allocated = s.allocated) (readyNum : s'.readyNum = s.readyNum)
    (constIdMp : s'.constIdMp = s.constIdMp) (mp : s'.mp = s.mp) : s'.Tables where
  allocated := by rw [mp, heap]; exact tables.allocated
  filed := by rw [mp, heap]; exact tables.filed
  distinct := by rw [mp]; exact tables.distinct
  bound := by rw [heap, allocated]; exact tables.bound
  peer := by rw [mp, heap]; exact tables.peer
  peek := by rw [heap]; exact tables.peek
  unready := by rw [heap]; exact tables.unready
  ready := by rw [heap, constIdMp]; exact tables.ready
  client := by rw [heap, constIdMp]; exact tables.client
  readyNum := by rw [readyNum, constIdMp]; exact tables.readyNum
  readyMax := by rw [constIdMp]; exact tables.readyMax
  entriesMax := by rw [mp]; exact tables.entriesMax

/-- The tables after a stored connection: it has to fit its entry. -/
theorem Tables.put (tables : s.Tables) {p : Ptr} {conn next : ServerConn options}
    (found : s.heap p = some conn) (peek : next.rawInfo.peek = false)
    (peer : ∀ addr, s.mp.lookup addr = some p → next.state ≠ .idle →
      next.rawInfo.source = addr ∧ next.rawInfo.destination = addr)
    (unready : next.state ≠ .ready →
      next.blob = none ∧ next.timerFd64 = 0 ∧ next.oppsiteConstId = 0)
    (ready : next.state = .ready →
      next.blob.isSome ∧ s.constIdMp.lookup next.oppsiteConstId = some p)
    (stays : conn.state = .ready →
      next.state = .ready ∧ next.oppsiteConstId = conn.oppsiteConstId) :
    (s.put p next).Tables where
  allocated addr q known := by
    rw [heap_put_apply]
    split
    · exact ⟨next, rfl⟩
    · exact tables.allocated addr q known
  filed q other there := by
    rw [heap_put_apply] at there
    split at there
    · rename_i same
      subst same
      exact tables.filed q conn found
    · exact tables.filed q other there
  distinct := tables.distinct
  bound q other there := by
    rw [heap_put_apply] at there
    split at there
    · rename_i same
      subst same
      exact tables.bound q conn found
    · exact tables.bound q other there
  peer addr q other known there used := by
    rw [heap_put_apply] at there
    split at there
    · rename_i same
      subst same
      obtain rfl := Option.some.inj there
      exact peer addr known used
    · exact tables.peer addr q other known there used
  peek q other there := by
    rw [heap_put_apply] at there
    split at there
    · obtain rfl := Option.some.inj there
      exact peek
    · exact tables.peek q other there
  unready q other there idle := by
    rw [heap_put_apply] at there
    split at there
    · obtain rfl := Option.some.inj there
      exact unready idle
    · exact tables.unready q other there idle
  ready q other there used := by
    rw [heap_put_apply] at there
    split at there
    · rename_i same
      subst same
      obtain rfl := Option.some.inj there
      exact ready used
    · exact tables.ready q other there used
  client constId q known := by
    obtain ⟨other, there, used, same⟩ := tables.client constId q known
    rw [heap_put_apply]
    split
    · rename_i here
      subst here
      obtain rfl := Option.some.inj (found.symm.trans there)
      exact ⟨next, rfl, (stays used).1, (stays used).2.trans same⟩
    · exact ⟨other, there, used, same⟩
  readyNum := tables.readyNum
  readyMax := tables.readyMax
  entriesMax := tables.entriesMax

/-- A connection that goes on fits its entry. -/
theorem Tables.touch (tables : s.Tables) {p : Ptr} {conn next : ServerConn options}
    {now later : Nat} (touches : s.Touches p conn next now later) : (s.put p next).Tables := by
  have like := touches.like
  refine tables.put touches.found ?_ ?_ ?_ ?_ fun used =>
    ⟨like.state.trans used, like.oppsiteConstId⟩
  · have before := tables.peek p conn touches.found
    obtain same | ⟨_, _, heard⟩ := touches.peer
    · exact same.peek.trans before
    · exact heard.peek.trans before
  · intro addr known used
    rw [like.state] at used
    obtain ⟨source, destination⟩ := tables.peer addr p conn known touches.found used
    obtain same | ⟨other, there, heard⟩ := touches.peer
    · exact ⟨same.source.trans source, same.destination.trans destination⟩
    · obtain rfl := tables.distinct addr other p known there
      exact ⟨heard.source source, heard.destination.trans destination⟩
  · intro idle
    rw [like.state] at idle
    obtain ⟨blob, timer, client⟩ := tables.unready p conn touches.found idle
    have same := like.blob
    rw [blob] at same
    exact ⟨ConnInfo.rel_none same, like.timerFd64.trans timer, like.oppsiteConstId.trans client⟩
  · intro used
    rw [like.state] at used
    obtain ⟨blob, known⟩ := tables.ready p conn touches.found used
    obtain ⟨contents, there⟩ := Option.isSome_iff_exists.mp blob
    have same := like.blob
    rw [there] at same
    obtain ⟨_, after, -⟩ := ConnInfo.rel_some same
    exact ⟨by rw [after]; rfl, by rw [like.oppsiteConstId, known]⟩

/-- A new entry keeps the tables. -/
theorem Tables.created (tables : s.Tables) {addr : Address v} {conn : ServerConn options}
    {position : Nat} (absent : addr ∉ s.mp) (room : s.mp.size < maxHandshakeConnNum)
    (fresh : Fresh addr conn) :
    ({ s with
      allocated := s.allocated + 1, mp := s.mp.insertAt position addr s.allocated
      }.put s.allocated conn).Tables := by
  have unused (addr : Address v) (used : s.mp.lookup addr = some s.allocated) : False := by
    obtain ⟨other, there⟩ := tables.allocated addr _ used
    exact Nat.lt_irrefl _ (tables.bound _ other there)
  have lookup := Table.lookup_insertAt absent position s.allocated
  have free (q : Ptr) (other : ServerConn options) (there : s.heap q = some other) :
      q ≠ s.allocated := Nat.ne_of_lt (tables.bound q other there)
  constructor
  case allocated =>
    intro other q known
    simp only [Server.put, lookup] at known
    rw [heap_put_apply]
    split at known
    · obtain rfl := Option.some.inj known
      exact ⟨conn, if_pos rfl⟩
    · obtain ⟨there, found⟩ := tables.allocated other q known
      exact ⟨there, by rw [if_neg (free q there found)]; exact found⟩
  case filed =>
    intro q other there
    simp only [Server.put, lookup]
    rw [heap_put_apply] at there
    split at there
    · rename_i same
      exact ⟨addr, by rw [if_pos rfl, same]⟩
    · obtain ⟨key, known⟩ := tables.filed q other there
      have different : key ≠ addr := by
        rintro rfl
        exact absent (Table.mem_iff_lookup.mpr ⟨q, known⟩)
      exact ⟨key, by rw [if_neg different]; exact known⟩
  case distinct =>
    intro one two q known other
    simp only [Server.put, lookup] at known other
    split at known <;> split at other
    · rename_i first second
      rw [first, second]
    · exact absurd ((Option.some.inj known) ▸ other) (unused two)
    · exact absurd ((Option.some.inj other) ▸ known) (unused one)
    · exact tables.distinct one two q known other
  case bound =>
    intro q other there
    rw [heap_put_apply] at there
    split at there
    · rename_i same
      exact same ▸ Nat.lt_succ_self _
    · exact Nat.lt_succ_of_lt (tables.bound q other there)
  case peer =>
    intro key q other known there used
    simp only [Server.put, lookup] at known
    rw [heap_put_apply] at there
    split at known
    · rename_i same
      obtain rfl := Option.some.inj known
      obtain rfl := Option.some.inj ((if_pos rfl).symm.trans there)
      rw [same]
      exact ⟨fresh.source, fresh.destination⟩
    · split at there
      · rename_i same
        exact absurd (same ▸ known) (unused key)
      · exact tables.peer key q other known there used
  case peek =>
    intro q other there
    rw [heap_put_apply] at there
    split at there
    · obtain rfl := Option.some.inj there
      exact fresh.peek
    · exact tables.peek q other there
  case unready =>
    intro q other there idle
    rw [heap_put_apply] at there
    split at there
    · obtain rfl := Option.some.inj there
      exact ⟨fresh.blob, fresh.timerFd64, fresh.oppsiteConstId⟩
    · exact tables.unready q other there idle
  case ready =>
    intro q other there used
    rw [heap_put_apply] at there
    split at there
    · obtain rfl := Option.some.inj there
      rw [fresh.state] at used
      contradiction
    · exact tables.ready q other there used
  case client =>
    intro constId q known
    obtain ⟨other, there, used, same⟩ := tables.client constId q known
    exact ⟨other, by rw [heap_put_apply, if_neg (free q other there)]; exact there, used, same⟩
  case readyNum => exact tables.readyNum
  case readyMax => exact tables.readyMax
  case entriesMax =>
    have size := Table.size_insertAt absent position s.allocated
    simp only [Server.put, size]
    omega

/-- A refused entry keeps the tables. -/
theorem Tables.refused (tables : s.Tables) {p : Ptr} {conn next : ServerConn options}
    (found : s.heap p = some conn) (waiting : conn.state = .handshake1)
    (idled : Idled conn next) : (s.put p next).Tables := by
  have notReady : conn.state ≠ .ready := by rw [waiting]; nofun
  obtain ⟨blob, timer, client⟩ := tables.unready p conn found notReady
  refine tables.put found (idled.peer.peek.trans (tables.peek p conn found)) ?_ ?_ ?_ ?_
  · exact fun _ _ used => absurd idled.state used
  · exact fun _ => ⟨idled.blob.trans blob, idled.timerFd64.trans timer,
      idled.oppsiteConstId.elim (·.trans client) id⟩
  · intro used
    rw [idled.state] at used
    contradiction
  · exact fun used => absurd used notReady

/-- A promotion keeps the tables. -/
theorem Tables.promoted (tables : s.Tables) {p : Ptr} {conn next : ServerConn options}
    {constId : UInt32} {timer : Nat} {seq : UInt64} {descriptors : Descriptors}
    (found : s.heap p = some conn) (waiting : conn.state = .handshake1)
    (absent : s.constIdMp.lookup constId = none) (room : s.readyNum.toNat < maxReadyConnNum)
    (promoted : Promoted constId timer seq conn next) :
    ({ s with
      readyNum := s.readyNum + 1, constIdMp := s.constIdMp.insert constId p
      descriptors }.put p next).Tables := by
  have notReady : conn.state ≠ .ready := by rw [waiting]; nofun
  have fresh : constId ∉ s.constIdMp := AList.lookup_eq_none.mp absent
  constructor
  case allocated =>
    intro addr q known
    rw [heap_put_apply]
    split
    · exact ⟨next, rfl⟩
    · exact tables.allocated addr q known
  case filed =>
    intro q other there
    rw [heap_put_apply] at there
    split at there
    · rename_i same
      exact same ▸ tables.filed p conn found
    · exact tables.filed q other there
  case distinct => exact tables.distinct
  case bound =>
    intro q other there
    rw [heap_put_apply] at there
    split at there
    · rename_i same
      exact same ▸ tables.bound p conn found
    · exact tables.bound q other there
  case peer =>
    intro addr q other known there used
    rw [heap_put_apply] at there
    split at there
    · rename_i same
      subst same
      obtain rfl := Option.some.inj there
      obtain ⟨source, destination⟩ := tables.peer addr q conn known found (by rw [waiting]; nofun)
      exact ⟨promoted.peer.source.trans source, promoted.peer.destination.trans destination⟩
    · exact tables.peer addr q other known there used
  case peek =>
    intro q other there
    rw [heap_put_apply] at there
    split at there
    · obtain rfl := Option.some.inj there
      exact promoted.peer.peek.trans (tables.peek p conn found)
    · exact tables.peek q other there
  case unready =>
    intro q other there idle
    rw [heap_put_apply] at there
    split at there
    · obtain rfl := Option.some.inj there
      exact absurd promoted.state idle
    · exact tables.unready q other there idle
  case ready =>
    intro q other there used
    simp only [Server.put, Table.lookup_insert]
    rw [heap_put_apply] at there
    split at there
    · rename_i same
      obtain rfl := Option.some.inj there
      obtain ⟨blob, contents, -⟩ := promoted.blob
      exact ⟨by rw [contents]; rfl, by rw [if_pos promoted.oppsiteConstId, same]⟩
    · obtain ⟨blob, known⟩ := tables.ready q other there used
      refine ⟨blob, ?_⟩
      rw [if_neg, known]
      intro same
      rw [same, absent] at known
      contradiction
  case client =>
    intro other q known
    simp only [Server.put, Table.lookup_insert] at known
    rw [heap_put_apply]
    split at known
    · rename_i same
      obtain rfl := Option.some.inj known
      exact ⟨next, if_pos rfl, promoted.state, promoted.oppsiteConstId.trans same.symm⟩
    · obtain ⟨there, used, ready, client⟩ := tables.client other q known
      have different : q ≠ p := by
        rintro rfl
        obtain rfl := Option.some.inj (found.symm.trans used)
        exact notReady ready
      exact ⟨there, by rw [if_neg different]; exact used, ready, client⟩
  case readyNum =>
    have size := Table.size_insert fresh p
    have count := tables.readyNum
    have limit : maxReadyConnNum = 1000 := rfl
    simp only [Server.put, size, UInt32.toNat_add, UInt32.toNat_one]
    omega
  case readyMax =>
    have size := Table.size_insert fresh p
    have count := tables.readyNum
    simp only [Server.put, size]
    omega
  case entriesMax => exact tables.entriesMax

/-- The entries of two connections that are not idle, when their sources are looked up. -/
theorem Tables.entry (tables : s.Tables) {p q : Ptr} {conn : ServerConn options}
    (found : s.heap p = some conn) (used : conn.state ≠ .idle)
    (known : s.mp.lookup conn.rawInfo.source = some q) : q = p := by
  obtain ⟨addr, filed⟩ := tables.filed p conn found
  rw [(tables.peer addr p conn filed found used).1, filed] at known
  exact (Option.some.inj known).symm

/-- The entries after two of them were exchanged. -/
theorem lookup_swapped {addr1 addr2 : Address v} {p q : Ptr} (known1 : s.mp.lookup addr1 = some p)
    (known2 : s.mp.lookup addr2 = some q) (pOri pNew : Ptr) (other : Address v) :
    (s.swapped addr1 addr2 pOri pNew).mp.lookup other =
      if other = addr1 then some pNew else if other = addr2 then some pOri
      else s.mp.lookup other := by
  have present2 : addr2 ∈ s.mp := Table.mem_iff_lookup.mpr ⟨q, known2⟩
  have present1 : addr1 ∈ AList.replace addr2 pOri s.mp :=
    AList.mem_replace.mpr (Table.mem_iff_lookup.mpr ⟨p, known1⟩)
  rw [swapped, Table.lookup_replace present1, Table.lookup_replace present2]

/-- A recovery keeps the tables. -/
theorem Tables.moved (tables : s.Tables) {p q pOri pNew : Ptr}
    {conn ori next idle : ServerConn options} {constId : UInt32} {now later : Nat} {seq : UInt64}
    (found : s.heap p = some conn) (waiting : conn.state = .handshake1)
    (known : s.constIdMp.lookup constId = some q) (other : s.heap q = some ori)
    (used : ori.state = .ready) (atOri : s.mp.lookup ori.rawInfo.source = some pOri)
    (atNew : s.mp.lookup conn.rawInfo.source = some pNew)
    (recovered : Recovered now later seq conn ori next) (idled : Idled conn idle) :
    (((s.swapped ori.rawInfo.source conn.rawInfo.source pOri pNew).put q next).put p
      idle).Tables := by
  obtain rfl := tables.entry other (by rw [used]; nofun) atOri
  obtain rfl := tables.entry found (by rw [waiting]; nofun) atNew
  have apart : pOri ≠ pNew := by
    rintro rfl
    obtain rfl := Option.some.inj (found.symm.trans other)
    rw [waiting] at used
    contradiction
  have lookup := lookup_swapped atOri atNew pOri pNew
  have heap (r : Ptr) : (((s.swapped ori.rawInfo.source conn.rawInfo.source pOri pNew).put pOri
      next).put pNew idle).heap r =
        if r = pNew then some idle else if r = pOri then some next else s.heap r := by
    rw [heap_put_apply, heap_put_apply]
    rfl
  have notReady : conn.state ≠ .ready := by rw [waiting]; nofun
  obtain ⟨noBlob, noTimer, noClient⟩ := tables.unready pNew conn found notReady
  have ready := tables.ready pOri ori other used
  have peerNew := tables.peer _ pNew conn atNew found (by rw [waiting]; nofun)
  constructor
  case allocated =>
    intro addr r there
    simp only [Server.put, lookup] at there
    rw [heap]
    split_ifs at there with first second
    · obtain rfl := Option.some.inj there
      exact ⟨idle, if_pos rfl⟩
    · obtain rfl := Option.some.inj there
      exact ⟨next, by rw [if_neg apart, if_pos rfl]⟩
    · obtain ⟨there', found'⟩ := tables.allocated addr r there
      split_ifs
      · exact ⟨idle, rfl⟩
      · exact ⟨next, rfl⟩
      · exact ⟨there', found'⟩
  case filed =>
    intro r there found'
    rw [heap] at found'
    simp only [Server.put, lookup]
    split_ifs at found' with first second
    · exact ⟨ori.rawInfo.source, by rw [if_pos rfl, first]⟩
    · have different : conn.rawInfo.source ≠ ori.rawInfo.source := by
        intro same
        rw [same, atOri] at atNew
        exact apart (Option.some.inj atNew)
      exact ⟨conn.rawInfo.source, by rw [if_neg different, if_pos rfl, second]⟩
    · obtain ⟨addr, filed⟩ := tables.filed r there found'
      refine ⟨addr, ?_⟩
      split_ifs with one two
      · rw [one, atOri] at filed
        exact absurd (Option.some.inj filed).symm second
      · rw [two, atNew] at filed
        exact absurd (Option.some.inj filed).symm first
      · exact filed
  case distinct =>
    intro one two r first second
    simp only [Server.put, lookup] at first second
    split_ifs at first second with a b c d e f g h
    · rw [a, b]
    · exact absurd ((Option.some.inj second).trans (Option.some.inj first).symm) apart
    · obtain rfl := Option.some.inj first
      exact absurd (tables.distinct two _ _ second atNew) c
    · exact absurd ((Option.some.inj first).trans (Option.some.inj second).symm) apart
    · rw [d, f]
    · obtain rfl := Option.some.inj first
      exact absurd (tables.distinct two _ _ second atOri) e
    · obtain rfl := Option.some.inj second
      exact absurd (tables.distinct one _ _ first atNew) d
    · obtain rfl := Option.some.inj second
      exact absurd (tables.distinct one _ _ first atOri) a
    · exact tables.distinct one two r first second
  case bound =>
    intro r there found'
    rw [heap] at found'
    split_ifs at found' with first second
    · exact first ▸ tables.bound pNew conn found
    · exact second ▸ tables.bound pOri ori other
    · exact tables.bound r there found'
  case peer =>
    intro addr r there filed found' active
    simp only [Server.put, lookup] at filed
    rw [heap] at found'
    split_ifs at found' with first second
    · obtain rfl := Option.some.inj found'
      exact absurd idled.state active
    · obtain rfl := Option.some.inj found'
      split_ifs at filed with one two
      · exact absurd (second.symm.trans (Option.some.inj filed).symm) apart
      · rw [two]
        exact ⟨recovered.peer.source.trans peerNew.1, recovered.peer.destination.trans peerNew.2⟩
      · rw [second] at filed
        exact absurd (tables.distinct addr _ _ filed atOri) one
    · split_ifs at filed with one two
      · exact absurd (Option.some.inj filed).symm first
      · exact absurd (Option.some.inj filed).symm second
      · exact tables.peer addr r there filed found' active
  case peek =>
    intro r there found'
    rw [heap] at found'
    split_ifs at found' with first second
    · obtain rfl := Option.some.inj found'
      exact idled.peer.peek.trans (tables.peek pNew conn found)
    · obtain rfl := Option.some.inj found'
      exact recovered.peer.peek.trans (tables.peek pNew conn found)
    · exact tables.peek r there found'
  case unready =>
    intro r there found' rest
    rw [heap] at found'
    split_ifs at found' with first second
    · obtain rfl := Option.some.inj found'
      exact ⟨idled.blob.trans noBlob, idled.timerFd64.trans noTimer,
        idled.oppsiteConstId.elim (·.trans noClient) id⟩
    · obtain rfl := Option.some.inj found'
      exact absurd (recovered.state.trans used) rest
    · exact tables.unready r there found' rest
  case ready =>
    intro r there found' active
    rw [heap] at found'
    split_ifs at found' with first second
    · obtain rfl := Option.some.inj found'
      rw [idled.state] at active
      contradiction
    · obtain rfl := Option.some.inj found'
      obtain ⟨old, new, -, contents, -⟩ := recovered.blob
      refine ⟨by rw [contents]; rfl, ?_⟩
      rw [recovered.oppsiteConstId, second]
      exact ready.2
    · exact tables.ready r there found' active
  case client =>
    intro id r there
    obtain ⟨there', found', active, same⟩ := tables.client id r there
    rw [heap]
    split_ifs with first second
    · rw [first, found] at found'
      obtain rfl := Option.some.inj found'
      exact absurd active notReady
    · rw [second, other] at found'
      obtain rfl := Option.some.inj found'
      exact ⟨next, rfl, recovered.state.trans used, recovered.oppsiteConstId.trans same⟩
    · exact ⟨there', found', active, same⟩
  case readyNum => exact tables.readyNum
  case readyMax => exact tables.readyMax
  case entriesMax =>
    have size :
        (s.swapped ori.rawInfo.source conn.rawInfo.source pOri pNew).mp.size = s.mp.size := by
      rw [swapped, Table.size_replace, Table.size_replace]
    exact size.trans_le tables.entriesMax

/-- Changed conversations keep the tables. -/
theorem Tables.withConvs (tables : s.Tables) {p : Ptr} {conn : ServerConn options} {blob : Blob Nat}
    (convs : ConvManager Nat) (found : s.heap p = some conn) (contents : conn.blob = some blob) :
    (s.put p (conn.withConvs blob convs)).Tables := by
  refine tables.put found (tables.peek p conn found) ?_ ?_ ?_ fun used => ⟨used, rfl⟩
  · exact fun addr known used => tables.peer addr p conn known found used
  · intro idle
    have nothing := (tables.unready p conn found idle).1
    rw [contents] at nothing
    contradiction
  · exact fun used => ⟨rfl, (tables.ready p conn found used).2⟩

/-- A freed entry keeps the tables, when its client is forgotten. -/
theorem Tables.freed (tables : s.Tables) {addr : Address v} {p : Ptr}
    (known : s.mp.lookup addr = some p) (heap : s'.heap = (s.free p).heap)
    (allocated : s'.allocated = s.allocated) (mp : s'.mp = s.mp.erase addr)
    (clients : ∀ constId q, s'.constIdMp.lookup constId = some q ↔
      q ≠ p ∧ s.constIdMp.lookup constId = some q)
    (readyNum : s'.readyNum.toNat = s'.constIdMp.size)
    (fewer : s'.constIdMp.size ≤ s.constIdMp.size) : s'.Tables := by
  have left (key : Address v) (q : Ptr) :
      s'.mp.lookup key = some q ↔ q ≠ p ∧ s.mp.lookup key = some q := by
    rw [mp, Table.lookup_erase]
    constructor
    · intro there
      split at there
      · contradiction
      · rename_i different
        refine ⟨?_, there⟩
        rintro rfl
        exact different (tables.distinct key addr q there known)
    · rintro ⟨different, there⟩
      rw [if_neg, there]
      rintro rfl
      exact different (Option.some.inj (there.symm.trans known))
  have memory (q : Ptr) (conn : ServerConn options) :
      s'.heap q = some conn ↔ q ≠ p ∧ s.heap q = some conn := by
    rw [heap]
    simp only [free, Function.update_apply]
    split <;> simp_all
  constructor
  case allocated =>
    intro key q there
    obtain ⟨different, entry⟩ := (left key q).mp there
    obtain ⟨other, found⟩ := tables.allocated key q entry
    exact ⟨other, (memory q other).mpr ⟨different, found⟩⟩
  case filed =>
    intro q other there
    obtain ⟨different, found⟩ := (memory q other).mp there
    obtain ⟨key, entry⟩ := tables.filed q other found
    exact ⟨key, (left key q).mpr ⟨different, entry⟩⟩
  case distinct =>
    intro one two q first second
    exact tables.distinct one two q ((left one q).mp first).2 ((left two q).mp second).2
  case bound =>
    intro q other there
    rw [allocated]
    exact tables.bound q other ((memory q other).mp there).2
  case peer =>
    intro key q other entry there used
    exact tables.peer key q other ((left key q).mp entry).2 ((memory q other).mp there).2 used
  case peek => exact fun q other there => tables.peek q other ((memory q other).mp there).2
  case unready => exact fun q other there => tables.unready q other ((memory q other).mp there).2
  case ready =>
    intro q other there used
    obtain ⟨different, found⟩ := (memory q other).mp there
    obtain ⟨blob, listed⟩ := tables.ready q other found used
    exact ⟨blob, (clients _ q).mpr ⟨different, listed⟩⟩
  case client =>
    intro constId q there
    obtain ⟨different, listed⟩ := (clients constId q).mp there
    obtain ⟨other, found, used, same⟩ := tables.client constId q listed
    exact ⟨other, (memory q other).mpr ⟨different, found⟩, used, same⟩
  case readyNum => exact readyNum
  case readyMax => exact fewer.trans tables.readyMax
  case entriesMax =>
    have size := Table.size_erase (Table.mem_iff_lookup.mpr ⟨p, known⟩)
    have limit := tables.entriesMax
    rw [mp]
    omega

/-- An erased entry keeps the tables. -/
theorem Tables.erased (tables : s.Tables) {addr : Address v} (erases : s.Erases addr s') :
    s'.Tables := by
  cases erases with
  | @waiting p conn known found waiting =>
    refine tables.freed known rfl rfl rfl (fun constId q => ?_) tables.readyNum (Nat.le_refl _)
    refine ⟨fun listed => ⟨?_, listed⟩, And.right⟩
    rintro rfl
    obtain ⟨other, there, used, -⟩ := tables.client constId q listed
    obtain rfl := Option.some.inj (found.symm.trans there)
    exact waiting used
  | @ready p conn _ _ _ known found ready _ _ listed =>
    have size := Table.size_erase listed
    have total := tables.readyNum
    refine tables.freed known rfl rfl rfl (fun constId q => ?_) ?_ ?_
    · show (s.constIdMp.erase conn.oppsiteConstId).lookup constId = some q ↔ _
      rw [Table.lookup_erase]
      by_cases same : constId = conn.oppsiteConstId
      · rw [if_pos same, same, (tables.ready p conn found ready).2]
        exact ⟨nofun, fun ⟨different, here⟩ => absurd (Option.some.inj here).symm different⟩
      · rw [if_neg same]
        refine ⟨fun there => ⟨?_, there⟩, And.right⟩
        rintro rfl
        obtain ⟨other, found', -, client⟩ := tables.client constId q there
        obtain rfl := Option.some.inj (found.symm.trans found')
        exact same client.symm
    · show (s.readyNum - 1).toNat = (s.constIdMp.erase conn.oppsiteConstId).size
      rw [UInt32.toNat_sub_of_le _ _ (UInt32.le_iff_toNat_le.mpr (by simp; omega))]
      simp only [UInt32.toNat_one]
      omega
    · show (s.constIdMp.erase conn.oppsiteConstId).size ≤ _
      omega

/-- Every step keeps the tables. -/
theorem Tables.step {one two : Stage options} (step : Step one two) (tables : one.server.Tables) :
    two.server.Tables := by
  cases step with
  | quiet | skipped | delivered => exact tables
  | exchanged touches => exact tables.touch touches
  | replied touches => exact tables.touch touches
  | introduced touches => exact tables.touch touches
  | forwarded touches => exact tables.touch touches
  | created absent room fresh => exact tables.created absent room fresh
  | refused found waiting idled => exact tables.refused found waiting idled
  | promoted found waiting absent room _ _ promoted =>
    exact tables.promoted found waiting absent room promoted
  | moved found waiting known other used atOri atNew _ recovered idled =>
    exact tables.moved found waiting known other used atOri atNew recovered idled
  | openedConv found contents =>
    exact (tables.withConvs _ found contents).congr rfl rfl rfl rfl rfl
  | lostSocket => exact tables.congr rfl rfl rfl rfl rfl
  | evicted found contents =>
    exact (tables.withConvs _ found contents).congr rfl rfl rfl rfl rfl
  | erased _ erased => exact tables.erased (erase_iff.mp erased)
  | swept => exact tables.congr rfl rfl rfl rfl rfl

end Server

/-- The tables of a reachable server agree. -/
theorem Reachable.tables {standing : Standing} {answers : Nat → Answer v} {filterPort : UInt16}
    {state : Machine v × Server options}
    (reachable : Reachable options standing answers filterPort state) : state.2.Tables :=
  reachable.holds (fun _ server => server.Tables) tables_start (fun _ => id) (fun _ => id)
    Tables.step

end Udp2raw
