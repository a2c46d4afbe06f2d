import Udp2raw.Server.Custody

/-!
# The sockets of the conversations

A conversation reaches its socket through a number and a descriptor, and both may be used again
for something else. As long as a connection uses a number, though, the number leads to the
socket that the server opened for this conversation of this client.
-/
namespace Udp2raw

open Server

variable {v : IpVersion} {options : Options v} {s s' : Server options} {log more : Log v}
  {events : List (Event v)}

/-- A number stands for a descriptor, and this for a socket. -/
def Descriptors.Leads (descriptors : Descriptors) (fd64 socket : Nat) : Prop :=
  ∃ fd, descriptors.fd64ToFd.lookup fd64 = some fd ∧ descriptors.opened.lookup fd = some socket

/-- A connection knows a conversation by a number. -/
def ConnInfo.Uses {τ : Type} [DecidableEq τ] (conn : ConnInfo options ServerState τ)
    (conv : UInt32) (data : τ) : Prop :=
  ∃ blob, conn.blob = some blob ∧ blob.convManager.convToData.lookup conv = some data

/-- The socket of an event that opened one. -/
def Event.opening : Event v → Option Nat
  | .openedSocket _ _ socket => some socket
  | _ => none

/-- What the server did stays in the record, and a client adds nothing to it. -/
theorem mem_server_append {event : Event v} (constId : UInt32) (events : List (Event v)) :
    (Party.server, event) ∈ log ++ entries (.client constId) events ↔
      (Party.server, event) ∈ log := by
  simp [entries]

/-- Minor events open no socket. -/
theorem Minor.opening (minor : Minor events) : events.filterMap Event.opening = [] := by
  refine List.filterMap_eq_nil_iff.mpr fun event inside => ?_
  obtain ⟨_, rfl⟩ | ⟨_, _, rfl⟩ := minor event inside <;> rfl

/-- A handshake opens no socket. -/
theorem BareEvents.opening {id1 id2 id3 : UInt32} (bare : BareEvents id1 id2 id3 events) :
    events.filterMap Event.opening = [] := by
  obtain ⟨_, _, rfl | ⟨_, rfl⟩⟩ := bare <;> rfl

/-- A safer message opens no socket. -/
theorem SaferEvents.opening {myId oppsiteId : UInt32} {seq : UInt64} {type : UInt8} {data : Bytes}
    (safer : SaferEvents myId oppsiteId seq type data events) :
    events.filterMap Event.opening = [] := by
  obtain ⟨_, rfl | ⟨_, _, rfl⟩⟩ := safer <;> rfl

/-- A step of a session opens no socket. -/
theorem ConnInfo.Exchanged.opening {conn next : ServerConn options} {arrived : List Pending}
    (exchanged : conn.Exchanged events arrived next) : events.filterMap Event.opening = [] := by
  cases exchanged with
  | minor _ minor => exact minor.opening
  | heartbeat _ safer => exact safer.opening
  | accepted => rfl

namespace Descriptors

variable {descriptors : Descriptors} {fd64 fd socket : Nat} {p : Ptr}

/-- A registered descriptor leaves the other numbers what they lead to. -/
theorem Sound.leads_registered (sound : descriptors.Sound) (unused : descriptors.Unused fd)
    (known : fd64 ∈ descriptors.fd64ToFd) :
    (descriptors.registered fd p).Leads fd64 socket ↔ descriptors.Leads fd64 socket := by
  have different : fd64 ≠ descriptors.counter := by
    rintro rfl
    exact sound.counter_unknown known
  have apart {other : Nat} (stored : descriptors.fd64ToFd.lookup fd64 = some other) :
      other ≠ fd := by
    rintro rfl
    exact unused.2 (Table.mem_iff_lookup.mpr ⟨fd64, (sound.inverse _ _).mp stored⟩)
  unfold Leads
  simp only [lookup_registered, opened_registered, if_neg different]
  refine exists_congr fun other => and_congr_right fun stored => ?_
  rw [if_neg (apart stored)]

/-- The new number leads to the new socket. -/
theorem leads_counter : (descriptors.registered fd p).Leads descriptors.counter socket ↔
    socket = descriptors.serials := by
  unfold Leads
  simp only [lookup_registered, opened_registered, if_true]
  constructor
  · rintro ⟨other, same, stored⟩
    rw [if_pos (Option.some.inj same).symm] at stored
    exact (Option.some.inj stored).symm
  · rintro rfl
    exact ⟨fd, rfl, if_pos rfl⟩

/-- A registered descriptor that was closed again leaves the other numbers what they lead to. -/
theorem Sound.leads_lost (sound : descriptors.Sound) (unused : descriptors.Unused fd)
    (known : fd64 ∈ descriptors.fd64ToFd)
    (leads : ((descriptors.registered fd p).sockClose fd).Leads fd64 socket) :
    descriptors.Leads fd64 socket := by
  obtain ⟨other, stored, open_⟩ := leads
  have still : (descriptors.registered fd p).opened.lookup other = some socket := by
    change ((descriptors.registered fd p).opened.erase fd).lookup other = some socket at open_
    rw [Table.lookup_erase] at open_
    split at open_
    · contradiction
    · exact open_
  exact (sound.leads_registered unused known).mp ⟨other, stored, still⟩

/-- A number that was not closed leads to what it led to. -/
theorem Closed.leads {gone : Nat → Prop} {before after : Descriptors}
    (closed : Closed gone before after) (rest : ¬gone fd64) (leads : after.Leads fd64 socket) :
    before.Leads fd64 socket := by
  obtain ⟨other, stored, open_⟩ := leads
  rw [closed.fd64ToFd fd64 rest] at stored
  rw [closed.opened fd64 other rest stored] at open_
  exact ⟨other, stored, open_⟩

end Descriptors

namespace Server

/-- A conversation is served through the number that it is known by. -/
theorem serves_iff {conn : ServerConn options} {conv : UInt32} {socket : Nat} :
    s.Serves conn conv socket ↔ ∃ fd64, conn.Uses conv fd64 ∧ s.descriptors.Leads fd64 socket := by
  constructor
  · rintro ⟨blob, fd64, fd, contents, used, stored, open_⟩
    exact ⟨fd64, ⟨blob, contents, used⟩, fd, stored, open_⟩
  · rintro ⟨fd64, ⟨blob, contents, used⟩, fd, stored, open_⟩
    exact ⟨⟨blob, fd64, fd, contents, used, stored, open_⟩⟩

/-- A connection with the same conversations uses the same numbers. -/
theorem SameHoldings.uses {conn next : ServerConn options} (same : SameHoldings conn next)
    {conv : UInt32} {fd64 : Nat} (uses : next.Uses conv fd64) : conn.Uses conv fd64 := by
  obtain ⟨blob, contents, used⟩ := uses
  have convs := same.convs
  rw [contents] at convs
  obtain ⟨old, before, link⟩ := ConnInfo.rel_to_some convs
  exact ⟨old, before, by rwa [link.convToData] at used⟩

/-- A number that a connection uses is its own. -/
theorem Custody.uses (custody : s.Custody) {p : Ptr} {conn : ServerConn options} {conv : UInt32}
    {fd64 : Nat} (found : s.heap p = some conn) (uses : conn.Uses conv fd64) :
    s.descriptors.fdInfo.lookup fd64 = some p := by
  obtain ⟨blob, contents, used⟩ := uses
  exact (custody.sockets p conn blob conv fd64 found contents used).2

/-- The record tells the sockets that are open. -/
structure Sockets (server : Server options) (log : Log v) : Prop where
  /-- The server opened the socket of a conversation for it. -/
  opened : ∀ p conn conv fd64 socket, server.heap p = some conn → conn.Uses conv fd64 →
    server.descriptors.Leads fd64 socket →
    (.server, .openedSocket conn.oppsiteConstId conv socket) ∈ log
  /-- The sockets are numbered, -/
  numbered : ∀ constId conv socket, (.server, .openedSocket constId conv socket) ∈ log →
    socket < server.descriptors.serials
  /-- and each was opened once. -/
  once : ∀ constId conv socket other conv', (.server, .openedSocket constId conv socket) ∈ log →
    (.server, .openedSocket other conv' socket) ∈ log → other = constId ∧ conv' = conv

/-- A server that starts has no sockets. -/
theorem sockets_start : (start : Server options).Sockets [] :=
  ⟨by simp [start], nofun, nofun⟩

/-- Events that open no socket. -/
theorem mem_opened_append (none : events.filterMap Event.opening = []) {constId conv : UInt32}
    {socket : Nat} : (Party.server, Event.openedSocket constId conv socket) ∈
      log ++ entries .server events ↔ (.server, .openedSocket constId conv socket) ∈ log := by
  have absent : (Event.openedSocket constId conv socket : Event v) ∉ events := fun inside =>
    absurd (List.filterMap_eq_nil_iff.mp none _ inside) nofun
  simp [entries, absent]

/-- More of the run that opens no socket, with connections that use numbers as before. -/
theorem Sockets.rest (sockets : s.Sockets log) (none : events.filterMap Event.opening = [])
    (serials : s.descriptors.serials ≤ s'.descriptors.serials)
    (conns : ∀ p next conv fd64 socket, s'.heap p = some next → next.Uses conv fd64 →
      s'.descriptors.Leads fd64 socket → ∃ q conn, s.heap q = some conn ∧
        next.oppsiteConstId = conn.oppsiteConstId ∧ conn.Uses conv fd64 ∧
        s.descriptors.Leads fd64 socket) : s'.Sockets (log ++ entries .server events) where
  opened p next conv fd64 socket there uses leads := by
    obtain ⟨q, conn, found, client, used, led⟩ := conns p next conv fd64 socket there uses leads
    rw [mem_opened_append none, client]
    exact sockets.opened q conn conv fd64 socket found used led
  numbered constId conv socket inside := by
    rw [mem_opened_append none] at inside
    exact Nat.lt_of_lt_of_le (sockets.numbered constId conv socket inside) serials
  once constId conv socket other conv' inside again := by
    rw [mem_opened_append none] at inside again
    exact sockets.once constId conv socket other conv' inside again

/-- A stored connection that uses numbers as before. -/
theorem Sockets.put (sockets : s.Sockets log) (none : events.filterMap Event.opening = [])
    {p : Ptr} {conn next : ServerConn options} (found : s.heap p = some conn)
    (serials : s.descriptors.serials ≤ s'.descriptors.serials)
    (uses : ∀ conv fd64, next.Uses conv fd64 →
      next.oppsiteConstId = conn.oppsiteConstId ∧ conn.Uses conv fd64)
    (leads : ∀ q other conv fd64 socket, s'.heap q = some other → other.Uses conv fd64 →
      s'.descriptors.Leads fd64 socket → s.descriptors.Leads fd64 socket)
    (heap : s'.heap = (s.put p next).heap) : s'.Sockets (log ++ entries .server events) := by
  refine sockets.rest none serials fun q other conv fd64 socket there used led => ?_
  have before := leads q other conv fd64 socket there used led
  rw [heap, heap_put_apply] at there
  split at there
  · obtain rfl := Option.some.inj there
    obtain ⟨client, holds⟩ := uses conv fd64 used
    exact ⟨p, conn, found, client, holds, before⟩
  · exact ⟨q, other, there, rfl, used, before⟩

/-- A stored connection that keeps what it owns. -/
theorem Sockets.keep (sockets : s.Sockets log) (none : events.filterMap Event.opening = [])
    {p : Ptr} {conn next : ServerConn options} (found : s.heap p = some conn)
    (client : next.oppsiteConstId = conn.oppsiteConstId) (same : SameHoldings conn next)
    (heap : s'.heap = (s.put p next).heap) (descriptors : s'.descriptors = s.descriptors) :
    s'.Sockets (log ++ entries .server events) := by
  refine sockets.put none found (Nat.le_of_eq (by rw [descriptors]))
    (fun conv fd64 uses => ⟨client, same.uses uses⟩) (fun _ _ _ _ _ _ _ leads => ?_) heap
  rwa [descriptors] at leads

/-- A connection that has no contents uses no number. -/
theorem not_uses {conn : ServerConn options} (empty : conn.blob = none) {conv : UInt32}
    {fd64 : Nat} : ¬conn.Uses conv fd64 := by
  rintro ⟨blob, contents, -⟩
  rw [empty] at contents
  contradiction

/-- The socket of a new conversation. -/
theorem Sockets.open (sockets : s.Sockets log) (custody : s.Custody) {p : Ptr}
    {conn : ServerConn options} {blob : Blob Nat} {convs : ConvManager Nat} {conv : UInt32}
    {fd : Nat} (found : s.heap p = some conn) (contents : conn.blob = some blob)
    (unused : s.descriptors.Unused fd)
    (convToData :
      convs.convToData = blob.convManager.convToData.insert conv s.descriptors.counter) :
    ((s.withDescriptors (s.descriptors.registered fd p)).put p (conn.withConvs blob convs)).Sockets
      (log ++ entries .server
        [.openedSocket conn.oppsiteConstId conv s.descriptors.serials]) := by
  have entry {constId other : UInt32} {socket : Nat}
      (inside : (Party.server, Event.openedSocket constId other socket) ∈ log ++ entries .server
        [.openedSocket conn.oppsiteConstId conv s.descriptors.serials]) :
      (.server, .openedSocket constId other socket) ∈ log ∨
        constId = conn.oppsiteConstId ∧ other = conv ∧ socket = s.descriptors.serials := by
    simpa [entries] using inside
  have before {q : Ptr} {other : ServerConn options} {conv' : UInt32} {fd64 socket : Nat}
      (there : s.heap q = some other) (uses : other.Uses conv' fd64)
      (leads : (s.descriptors.registered fd p).Leads fd64 socket) :
      (.server, .openedSocket other.oppsiteConstId conv' socket) ∈ log := by
    have known := custody.known (custody.uses there uses)
    exact sockets.opened q other conv' fd64 socket there uses
      ((custody.sound.leads_registered unused known).mp leads)
  refine ⟨fun q other conv' fd64 socket there uses leads => ?_,
    fun constId other socket inside => ?_,
    fun constId other socket constId' conv' inside again => ?_⟩
  · rw [heap_put_apply] at there
    split at there
    · obtain rfl := Option.some.inj there
      obtain ⟨_, same, used⟩ := uses
      obtain rfl := Option.some.inj same
      change convs.convToData.lookup conv' = some fd64 at used
      rw [convToData, Table.lookup_insert] at used
      split at used
      · rename_i here
        obtain rfl := Option.some.inj used
        obtain rfl := Descriptors.leads_counter.mp leads
        rw [here]
        exact List.mem_append_right _ List.mem_cons_self
      · have earlier : (Party.server, Event.openedSocket conn.oppsiteConstId conv' socket) ∈ log :=
          before found ⟨blob, contents, used⟩ leads
        exact List.mem_append_left _ earlier
    · exact List.mem_append_left _ (before there uses leads)
  · show socket < s.descriptors.serials + 1
    obtain old | ⟨-, -, rfl⟩ := entry inside
    · exact Nat.lt_succ_of_lt (sockets.numbered constId other socket old)
    · exact Nat.lt_succ_self _
  · obtain old | ⟨rfl, rfl, rfl⟩ := entry inside
    · obtain oldToo | ⟨-, -, rfl⟩ := entry again
      · exact sockets.once constId other socket constId' conv' old oldToo
      · exact absurd (sockets.numbered _ _ _ old) (Nat.lt_irrefl _)
    · obtain old | ⟨rfl, rfl, -⟩ := entry again
      · exact absurd (sockets.numbered _ _ _ old) (Nat.lt_irrefl _)
      · exact ⟨rfl, rfl⟩

/-- Every step of the server records the sockets that it opens. -/
theorem Sockets.step {one two : Stage options} (step : Step one two)
    (self : one.machine.self = .server) (tables : one.server.Tables) (custody : one.server.Custody)
    (sockets : one.server.Sockets one.machine.log) : two.server.Sockets two.machine.log := by
  -- Most steps open no socket and keep what the connections own.
  have still {events : List (Event v)} (went : Went events one.machine two.machine)
      (none : events.filterMap Event.opening = []) (heap : two.server.heap = one.server.heap)
      (descriptors : two.server.descriptors = one.server.descriptors) :
      two.server.Sockets two.machine.log := by
    rw [went.log, self]
    refine sockets.rest none (Nat.le_of_eq (by rw [descriptors]))
      fun p next conv fd64 socket there uses leads => ?_
    rw [descriptors] at leads
    exact ⟨p, next, heap ▸ there, rfl, uses, leads⟩
  have stored {events : List (Event v)} {p : Ptr} {conn next : ServerConn options}
      (went : Went events one.machine two.machine) (none : events.filterMap Event.opening = [])
      (found : one.server.heap p = some conn)
      (client : next.oppsiteConstId = conn.oppsiteConstId) (same : SameHoldings conn next)
      (heap : two.server.heap = (one.server.put p next).heap)
      (descriptors : two.server.descriptors = one.server.descriptors) :
      two.server.Sockets two.machine.log := by
    rw [went.log, self]
    exact sockets.keep none found client same heap descriptors
  cases step with
  | quiet minor went => exact still went minor.opening rfl rfl
  | exchanged touches exchanged went =>
    have none := exchanged.opening
    exact stored went none touches.found touches.like.oppsiteConstId
      (sameHoldings_of_like touches.like) rfl rfl
  | replied touches _ _ _ bare went =>
    exact stored went bare.opening touches.found touches.like.oppsiteConstId
      (sameHoldings_of_like touches.like) rfl rfl
  | introduced touches =>
    exact stored (.refl _) rfl touches.found touches.like.oppsiteConstId
      (sameHoldings_of_like touches.like) rfl rfl
  | forwarded touches _ _ _ _ _ safer went =>
    exact stored went safer.opening touches.found touches.like.oppsiteConstId
      (sameHoldings_of_like touches.like) rfl rfl
  | skipped => exact sockets
  | delivered _ _ _ _ _ _ went => exact still went rfl rfl rfl
  | @created _ _ s _ addr conn _ _ _ _ _ fresh _ went =>
    rw [went.log, self]
    refine sockets.rest rfl (Nat.le_refl _) fun p next conv fd64 socket there uses leads => ?_
    rw [heap_put_apply] at there
    split at there
    · obtain rfl := Option.some.inj there
      exact absurd uses (not_uses fresh.blob)
    · exact ⟨p, next, there, rfl, uses, leads⟩
  | @refused _ _ _ p conn next found waiting idled =>
    have empty := (tables.unready p conn found (by rw [waiting]; nofun)).1
    rw [(Logged.refl _).log, self]
    exact sockets.put rfl found (Nat.le_refl _)
      (fun _ _ uses => absurd uses (not_uses (idled.blob.trans empty)))
      (fun _ _ _ _ _ _ _ => id) rfl
  | @promoted _ _ s _ p conn next _ fd _ _ _ found _ _ _ _ unused promoted safer went =>
    rw [went.log, self]
    have fresh {conv : UInt32} {fd64 : Nat} : ¬next.Uses conv fd64 := by
      rintro ⟨other, there, used⟩
      obtain ⟨blob, contents, convToData, -⟩ := promoted.blob
      obtain rfl := Option.some.inj (contents.symm.trans there)
      rw [convToData] at used
      contradiction
    refine sockets.put safer.opening found (Nat.le_succ _) (fun _ _ uses => absurd uses fresh)
      (fun q other conv fd64 socket there uses leads => ?_) rfl
    simp only [heap_put_apply] at there
    split at there
    · obtain rfl := Option.some.inj there
      exact absurd uses fresh
    · exact
        (custody.sound.leads_registered unused (custody.known (custody.uses there uses))).mp leads
  | @moved _ _ s _ p q _ _ conn ori next idle _ _ _ _ found waiting _ other _ _ _ _ recovered idled
      safer went =>
    rw [went.log, self]
    have empty := (tables.unready p conn found (by rw [waiting]; nofun)).1
    refine sockets.rest safer.opening (Nat.le_refl _)
      fun r third conv fd64 socket there uses leads => ?_
    simp only [heap_put_apply] at there
    split at there
    · obtain rfl := Option.some.inj there
      exact absurd uses (not_uses (idled.blob.trans empty))
    split at there
    · obtain rfl := Option.some.inj there
      exact ⟨q, ori, other, recovered.oppsiteConstId,
        (sameHoldings_of_recovered recovered).uses uses, leads⟩
    · exact ⟨r, third, there, rfl, uses, leads⟩
  | openedConv found contents _ unused _ convToData _ _ went =>
    rw [went.log, self]
    exact sockets.open custody found contents unused convToData
  | lostSocket _ unused went =>
    rw [went.log, self]
    refine sockets.rest rfl (Nat.le_succ _) fun p next conv fd64 socket there uses leads => ?_
    exact ⟨p, next, there, rfl, uses,
      custody.sound.leads_lost unused (custody.known (custody.uses there uses)) leads⟩
  | @evicted _ s _ p conn blob convs descriptors found contents erased =>
    obtain ⟨-, conv, fd64, used, rfl, gone⟩ := custody.evicted found contents erased
    have linked := custody.linked p conn blob found contents
    -- what the connection still uses it used before, and by another number
    have left {conv' : UInt32} {fd64' : Nat}
        (uses : (conn.withConvs blob (blob.convManager.without conv fd64)).Uses conv' fd64') :
        conn.Uses conv' fd64' ∧ fd64' ≠ fd64 := by
      obtain ⟨_, same, there⟩ := uses
      obtain rfl := Option.some.inj same
      change (blob.convManager.convToData.erase conv).lookup conv' = some fd64' at there
      rw [Table.lookup_erase] at there
      split at there
      · contradiction
      rename_i different
      refine ⟨⟨blob, contents, there⟩, ?_⟩
      rintro rfl
      have one := (linked.inverse _ _).mp there
      rw [(linked.inverse _ _).mp used] at one
      exact different (Option.some.inj one).symm
    have owned := custody.uses found ⟨blob, contents, used⟩
    rw [(Logged.refl _).log, self]
    refine sockets.put rfl found (Nat.le_of_eq gone.serials.symm) ?_ ?_ rfl
    · exact fun conv' fd64' uses => ⟨rfl, (left uses).1⟩
    · intro q other conv' fd64' socket there uses leads
      refine gone.leads ?_ leads
      rw [heap_put_apply] at there
      split at there
      · obtain rfl := Option.some.inj there
        exact (left uses).2
      · rename_i elsewhere
        rintro rfl
        have own := custody.uses there uses
        rw [owned] at own
        exact elsewhere (Option.some.inj own).symm
  | @erased _ s s' _ addr _ erased =>
    have there {p q : Ptr} {conn : ServerConn options} (found : (s.free p).heap q = some conn) :
        q ≠ p ∧ s.heap q = some conn := by
      simp only [free, Function.update_apply] at found
      split at found
      · contradiction
      · rename_i different
        exact ⟨different, found⟩
    rw [(Logged.refl _).log, self]
    cases erase_iff.mp erased with
    | @waiting p =>
      exact sockets.rest rfl (Nat.le_refl _) fun q next conv fd64 socket found uses leads =>
        ⟨q, next, (there found).2, rfl, uses, leads⟩
    | @ready p conn blob closed released _ found ready contents _ _ _ _ close cleared =>
      have gone := erased_closed custody close cleared
      refine sockets.rest rfl (Nat.le_of_eq gone.serials.symm)
        fun q next conv' fd64' socket left uses leads => ?_
      obtain ⟨different, before⟩ := there left
      refine ⟨q, next, before, rfl, uses, gone.leads ?_ leads⟩
      have own := custody.uses before uses
      rintro (rfl | ⟨conv, used⟩)
      · rw [(custody.timer p conn found ready).2] at own
        exact different (Option.some.inj own).symm
      · rw [custody.uses found ⟨blob, contents, used⟩] at own
        exact different (Option.some.inj own).symm
  | swept => exact still (.refl _) rfl rfl rfl

end Server

end Udp2raw
