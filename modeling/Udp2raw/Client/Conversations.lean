import Udp2raw.Client.Steps

/-!
# The conversations of the client

The client finds the local address of a conversation in one table and the conversation of a local
address in another. The two agree, and whatever they hold the client created.
-/
namespace Udp2raw

variable {v : IpVersion} {options : Options v} {c c' : Client options} {log more : Log v}

/-- The client created its conversations. -/
structure Client.Converses (client : Client options) (log : Log v) : Prop where
  /-- Its conversation tables agree. -/
  linked : ∀ blob ∈ client.conn.blob, blob.convManager.Linked
  /-- It created each of its conversations for the local address. -/
  created : ∀ blob ∈ client.conn.blob, ∀ conv addr,
    blob.convManager.convToData.lookup conv = some addr →
    (.client options.constId, .createdConv conv addr) ∈ log

namespace Client.Converses

/-- The record grows. -/
theorem later (converses : c.Converses log) (more : Log v) : c.Converses (log ++ more) :=
  ⟨converses.linked, fun blob inside conv addr known =>
    List.mem_append_left _ (converses.created blob inside conv addr known)⟩

/-- A client without conversations. -/
theorem of_empty {blob : Blob LocalAddress} (allocated : c.conn.blob = some blob)
    (convToData : blob.convManager.convToData = ∅) (dataToConv : blob.convManager.dataToConv = ∅)
    (lru : blob.convManager.lru = .empty) : c.Converses log := by
  refine ⟨fun other inside => ?_, fun other inside conv addr known => ?_⟩
  · obtain rfl := Option.some.inj (allocated.symm.trans inside)
    exact ConvManager.linked_of_empty convToData dataToConv lru
  · obtain rfl := Option.some.inj (allocated.symm.trans inside)
    rw [convToData] at known
    contradiction

/-- A client with the same conversations. -/
theorem same (converses : c.Converses log)
    (convs : Option.Rel (fun old new : Blob LocalAddress =>
      old.convManager.SameConvs new.convManager) c.conn.blob c'.conn.blob) : c'.Converses log := by
  have before {blob : Blob LocalAddress} (inside : c'.conn.blob = some blob) :
      ∃ old, c.conn.blob = some old ∧ old.convManager.SameConvs blob.convManager := by
    rw [inside] at convs
    exact ConnInfo.rel_to_some convs
  refine ⟨fun blob inside => ?_, fun blob inside conv addr known => ?_⟩
  · obtain ⟨old, there, link⟩ := before inside
    exact (converses.linked old there).same link
  · obtain ⟨old, there, link⟩ := before inside
    rw [link.convToData] at known
    exact converses.created old there conv addr known

/-- A client with the same connection contents. -/
theorem of_eq (converses : c.Converses log) (blob : c'.conn.blob = c.conn.blob) :
    c'.Converses log :=
  converses.same (ConnInfo.rel_of_eq (fun _ => .refl _) blob)

/-- A client whose connection is steady. -/
theorem steady {next : ClientConn options} (converses : c.Converses log)
    (steady : c.conn.Steady next) : (c.withConn next).Converses log :=
  converses.same (ConnInfo.rel_mono steady.blob fun _ _ both => both.2)

/-- A client with other contents of the same conversations, whose connection is steady then. -/
theorem steady_of {conn next : ClientConn options} {old : Blob LocalAddress}
    (converses : c.Converses log) (allocated : c.conn.blob = some old)
    (became : conn.blob.map Blob.convManager = some old.convManager)
    (steady : conn.Steady next) : (c.withConn next).Converses log := by
  refine converses.same ?_
  obtain ⟨new, became, convs⟩ := Option.map_eq_some_iff.mp became
  obtain ⟨kept, there, both⟩ := ConnInfo.rel_some (became ▸ steady.blob)
  rw [allocated, show (c.withConn next).conn.blob = some kept from there]
  exact .some (convs ▸ both.2)

/-- A new conversation. -/
theorem create {blob : Blob LocalAddress} {convs : ConvManager LocalAddress} {conv : UInt32}
    {addr : LocalAddress} (converses : c.Converses log) (allocated : c.conn.blob = some blob)
    (unused : conv ∉ blob.convManager.convToData) (fresh : addr ∉ blob.convManager.dataToConv)
    (dataToConv : convs.dataToConv = blob.convManager.dataToConv.insert addr conv)
    (convToData : convs.convToData = blob.convManager.convToData.insert conv addr)
    (nodes : convs.lru.keys = conv :: blob.convManager.lru.keys) :
    (c.withConn (c.conn.withConvs blob convs)).Converses
      (log ++ [(.client options.constId, .createdConv conv addr)]) := by
  refine ⟨fun other inside => ?_, fun other inside conv' addr' known => ?_⟩
  · obtain rfl := Option.some.inj inside
    exact (converses.linked blob allocated).insert unused fresh dataToConv convToData nodes
  · obtain rfl := Option.some.inj inside
    change convs.convToData.lookup conv' = some addr' at known
    rw [convToData, Table.lookup_insert] at known
    split at known
    · rename_i here
      obtain rfl := Option.some.inj known
      rw [here]
      exact List.mem_append_right _ List.mem_cons_self
    · exact List.mem_append_left _ (converses.created blob allocated conv' addr' known)

/-- A conversation was forgotten. -/
theorem evict {blob : Blob LocalAddress} {convs : ConvManager LocalAddress}
    (converses : c.Converses log) (allocated : c.conn.blob = some blob)
    (erased : ConvManager.Erased clientClearFunction (blob.convManager, ()) (convs, ())) :
    (c.withConn (c.conn.withConvs blob convs)).Converses log := by
  have linked := converses.linked blob allocated
  obtain ⟨conv, data, used, -, rfl⟩ := erased.released linked
  refine ⟨fun other inside => ?_, fun other inside conv' addr' known => ?_⟩
  · obtain rfl := Option.some.inj inside
    exact linked.without used
  · obtain rfl := Option.some.inj inside
    change (blob.convManager.convToData.erase conv).lookup conv' = some addr' at known
    rw [Table.lookup_erase] at known
    split at known
    · contradiction
    · exact converses.created blob allocated conv' addr' known

/-- The conversation of a local address was created for it. -/
theorem known {blob : Blob LocalAddress} {conv : UInt32} {addr : LocalAddress}
    (converses : c.Converses log) (allocated : c.conn.blob = some blob)
    (known : blob.convManager.dataToConv.lookup addr = some conv) :
    (.client options.constId, .createdConv conv addr) ∈ log :=
  converses.created blob allocated conv addr
    (((converses.linked blob allocated).inverse conv addr).mpr known)

/-- Every step of a client records the conversations that it creates. -/
theorem step {lenient : Prop} {one two : ClientStage options}
    (step : ClientStep lenient one two) (self : one.machine.self = .client options.constId)
    (converses : one.client.Converses one.machine.log) :
    two.client.Converses two.machine.log := by
  -- Most steps keep the conversations.
  have still {events : List (Event v)} (went : Went events one.machine two.machine)
      (kept : two.client.Converses one.machine.log) : two.client.Converses two.machine.log := by
    rw [went.log]
    exact kept.later _
  cases step with
  | quiet _ steady went =>
    exact still went (converses.same (ConnInfo.rel_mono steady.blob fun _ _ both => both.2))
  | refiltered | skipped => exact converses
  | received went => exact still went converses
  | gaveUp went => exact still went (converses.of_eq rfl)
  | redrew _ _ went => exact still went (converses.of_eq rfl)
  | forgot _ allocated _ went =>
    exact still went (converses.steady_of allocated rfl (.refl _))
  | began _ _ went => exact still went (converses.of_eq rfl)
  | sentHandshake1 _ steady _ went => exact still went (converses.steady steady)
  | answered _ _ went => exact still went (converses.of_eq rfl)
  | sentHandshake2 _ steady _ went => exact still went (converses.steady steady)
  | accepted _ allocated _ steady _ went =>
    exact still went (converses.steady_of allocated rfl steady)
  | becameReady _ went => exact still went (converses.of_eq rfl)
  | heartbeat _ allocated steady _ went =>
    exact still went (converses.steady_of allocated rfl steady)
  | createdConv allocated unused fresh dataToConv convToData nodes went =>
    rw [went.log, self]
    exact converses.create allocated unused fresh dataToConv convToData nodes
  | forwarded _ allocated _ _ steady _ went =>
    exact still went (converses.steady_of allocated rfl steady)
  | delivered _ _ _ _ went => exact still went converses
  | evicted allocated erased => exact converses.evict allocated erased

end Client.Converses

end Udp2raw
