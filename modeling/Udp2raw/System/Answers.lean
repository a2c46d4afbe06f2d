import Udp2raw.Server.Answers
import Udp2raw.System.Handshakes

/-!
# No reflection

An address has an entry at the server only after an initial handshake that the server could
decrypt was captured from there. So the server sends nothing to an address that did not ask:
what it sends goes to such an address, or it is the empty answer to a `SYN` from there.
-/
namespace Udp2raw

open Proc ServerProc Server

variable {v : IpVersion} {ι : Type} {d : Deployment v ι}

/-- A step takes an entry for an address only with a record of it. -/
theorem Step.enters {options : Options v} {one two : Stage options} (step : Step one two)
    (self : one.machine.self = .server)
    (before : ∀ addr ∈ one.server.mp, ∃ myId, Entered one.machine.log addr myId) :
    ∀ addr ∈ two.server.mp, ∃ myId, Entered two.machine.log addr myId := by
  have kept (addr : Address v) (there : addr ∈ one.server.mp) :
      ∃ myId, Entered two.machine.log addr myId := by
    obtain ⟨events, went⟩ := step.went
    obtain ⟨myId, entered⟩ := before addr there
    rw [went.log]
    exact ⟨myId, entered.later _⟩
  cases step with
  | @created m m' s _ addr conn position id1 id3 absent room fresh heard went =>
    intro other there
    by_cases new : other = addr
    · subst new
      have mine : m.self = .server := self
      have grown : m'.log =
          m.log ++ entries .server [.drewMyId conn.myId, .created other conn.myId] :=
        mine ▸ went.log
      exact ⟨conn.myId, m.log, [], grown⟩
    · apply kept other
      have found : (s.mp.insertAt position addr s.allocated).lookup other ≠ none := fun none =>
        AList.lookup_eq_none.mp none there
      rw [Table.lookup_insertAt absent, if_neg new] at found
      by_contra missing
      exact found (AList.lookup_eq_none.mpr missing)
  | @moved m m' s _ p q pOri pNew conn ori =>
    intro addr there
    apply kept
    have swapped : addr ∈ (s.mp.replace conn.rawInfo.source pOri).replace ori.rawInfo.source pNew :=
      there
    rwa [AList.mem_replace, AList.mem_replace] at swapped
  | @erased m s s' _ gone _ erased =>
    intro addr there
    apply kept
    rw [(erase_iff.mp erased).mp] at there
    exact (AList.mem_erase.mp there).2
  | _ => exact kept

/-- Every address with an entry has a record of it. -/
def entriesRecorded (d : Deployment v ι) : Invariant d where
  good _ := True
  record _ := True
  server log s _ := ∀ addr ∈ s.mp, ∃ myId, Entered log addr myId
  client _ _ _ _ := True
  part _ := id
  emptyRecord := trivial
  serverStart addr there := absurd there (AList.notMem_empty addr)
  serverLater j events before addr there := by
    obtain ⟨myId, entered⟩ := before addr there
    exact ⟨myId, entered.later _⟩
  clientServer _ := id
  clientLater _ _ _ := id
  serverStep step self _ _ _ _ before := ⟨trivial, step.enters self before⟩
  clientStart _ _ _ _ _ _ := ⟨trivial, trivial⟩
  clientStep _ _ _ _ _ := ⟨trivial, trivial⟩

/-- The server captured a packet from the address and decrypted an initial handshake from it. -/
def Invited (config : RawConfig v) (arrivals : List (Nat × Capture)) (log : Log v)
    (addr : Address v) : Prop :=
  ∃ early capture input message later,
    log = early ++ (.server, .decrypted input message) :: later ∧
    (early.length, capture) ∈ arrivals ∧ capture.source config = addr ∧ InitialHandshake message

/-- With more arrivals and more of the record. -/
theorem Invited.later {config : RawConfig v} {arrivals : List (Nat × Capture)} {log : Log v}
    {addr : Address v} (invited : Invited config arrivals log addr)
    (moreArrivals : List (Nat × Capture)) (more : Log v) :
    Invited config (arrivals ++ moreArrivals) (log ++ more) addr := by
  obtain ⟨early, capture, input, message, later, rfl, inside, source, initial⟩ := invited
  refine ⟨early, capture, input, message, later ++ more, ?_, ?_, source, initial⟩
  · simp
  · exact List.mem_append_left _ inside

/-- A packet goes to an address that was invited, or it carries nothing and goes to an address that
a packet was captured from. -/
def Requested (config : RawConfig v) (arrivals : List (Nat × Capture)) (log : Log v)
    (sent : Bytes) : Prop :=
  ∃ addr, GoesTo config sent addr ∧ (Invited config arrivals log addr ∨
    sent.length = v.headerSize + RawMode.sentHeaderSize .faketcp true ∧
      ∃ arrival ∈ arrivals, arrival.2.source config = addr)

/-- With more arrivals and more of the record. -/
theorem Requested.later {config : RawConfig v} {arrivals : List (Nat × Capture)} {log : Log v}
    {sent : Bytes} (requested : Requested config arrivals log sent)
    (moreArrivals : List (Nat × Capture)) (more : Log v) :
    Requested config (arrivals ++ moreArrivals) (log ++ more) sent := by
  obtain ⟨addr, goes, invited | ⟨empty, arrival, inside, source⟩⟩ := requested
  · exact ⟨addr, goes, .inl (invited.later _ _)⟩
  · exact ⟨addr, goes, .inr ⟨empty, arrival, List.mem_append_left _ inside, source⟩⟩

section Runs

variable [DecidableEq ι] {w : World d}

/-- An address with an entry was invited. -/
theorem WorldRun.invited (run : WorldRun d w) {addr : Address v} (there : addr ∈ w.server.2.mp) :
    Invited d.options.raw w.arrivals w.log addr := by
  obtain ⟨-, entries, -⟩ := run.holds (entriesRecorded d) trivial
  obtain ⟨myId, before, after, parts⟩ := entries addr there
  have split : w.log = (before ++ [(.server, .drewMyId myId)]) ++ (.server, .created addr myId) ::
      after := by
    rw [parts]
    simp
  obtain ⟨early, capture, input, message, same, inside, source, initial⟩ :=
    run.arrived _ _ _ split addr myId rfl
  have whole : before ++ [(.server, .drewMyId myId)] =
      (early ++ [(.server, .decrypted input message)]) ++ [(.server, .drewMyId myId)] := by
    rw [same]
    simp
  obtain rfl := List.append_cancel_right whole
  rw [Capture.buffered_source] at source
  have place : w.log = early ++ (.server, .decrypted input message) ::
      (.server, .drewMyId myId) :: (.server, .created addr myId) :: after := by
    rw [parts]
    simp
  exact ⟨early, capture, input, message, _, place, inside, source, initial⟩

/-- Every packet that the server sent in a run was asked for. -/
theorem WorldRun.requested (run : WorldRun d w) :
    ∀ sent ∈ w.server.1.wire, Requested d.options.raw w.arrivals w.log sent := by
  induction run with
  | start => exact fun sent inside => absurd inside List.not_mem_nil
  | @server w event going after earlier returned ih =>
    have next := earlier.server returned
    have tables := earlier.server_reachable.tables
    obtain ⟨packet, wire, each⟩ := serverOnEvent_answers tables returned
    obtain ⟨_, events, _, _, _, grown⟩ := earlier.serverEvent returned
    let captures := (event.captured d.standing).toList.map fun capture => (w.log.length, capture)
    intro sent inside
    change sent ∈ after.1.wire at inside
    show Requested d.options.raw (w.arrivals ++ captures) after.1.log sent
    rw [wire, List.mem_append] at inside
    rcases inside with before | new
    · rw [grown]
      exact (ih sent before).later _ _
    · obtain ⟨addr, goes, -, known⟩ := each sent (Option.mem_toList.mp new)
      refine ⟨addr, goes, ?_⟩
      rcases known with early | late | ⟨asked, empty⟩
      · rw [grown]
        exact .inl ((earlier.invited early).later _ _)
      · exact .inl (next.invited late)
      · obtain ⟨capture, captured, source⟩ := Option.map_eq_some_iff.mp asked
        refine .inr ⟨empty, (w.log.length, capture), ?_, source⟩
        apply List.mem_append_right
        simp [captures, captured]
  | @connect w i machine client _ _ _ ih =>
    intro sent inside
    have later := (ih sent inside).later [] machine.log
    rwa [List.append_nil] at later
  | @client w i event before after earlier present returned ih =>
    obtain ⟨_, events, _, _, _, grown⟩ := earlier.clientEvent present returned
    intro sent inside
    show Requested d.options.raw w.arrivals after.1.log sent
    have later := (ih sent inside).later [] (entries (.client (d.clientOptions i).constId) events)
    rwa [List.append_nil, ← grown] at later

/-- In every run each packet that the server sent goes to an address that an initial handshake came
from, or it carries nothing and answers a packet from there. An event makes the server send at most
one packet, and a captured packet makes it send only to where this packet came from. -/
theorem WorldRun.no_reflection (run : WorldRun d w) :
    (∀ sent ∈ w.server.1.wire, Requested d.options.raw w.arrivals w.log sent) ∧
    ∀ event going after,
      Returns (serverOnEvent d.standing event) (w.server.1.withLog w.log, w.server.2) going after →
      ∃ packet : Option Bytes, after.1.wire = w.server.1.wire ++ packet.toList ∧
        ∀ sent ∈ packet, ∃ addr, GoesTo d.options.raw sent addr ∧
          ∀ capture ∈ event.captured d.standing, capture.source d.options.raw = addr := by
  refine ⟨run.requested, ?_⟩
  intro event going after returned
  obtain ⟨packet, wire, each⟩ := serverOnEvent_answers run.server_reachable.tables returned
  refine ⟨packet, wire, fun sent inside => ?_⟩
  obtain ⟨addr, goes, back, -⟩ := each sent inside
  refine ⟨addr, goes, fun capture captured => ?_⟩
  have asked : (event.captured d.standing).map (Capture.source d.options.raw) =
      some (capture.source d.options.raw) := by
    rw [Option.mem_def.mp captured]
    rfl
  exact (back _ asked).symm

end Runs

/-- The server answered a `SYN` and two handshakes of its client. -/
theorem no_reflection_met : ∃ w, metWorld = some w ∧ w.server.1.wire.length = 3 ∧
    (∀ sent ∈ w.server.1.wire, Requested metDeployment.options.raw w.arrivals w.log sent) ∧
    ∀ event going after, Returns (serverOnEvent metDeployment.standing event)
        (w.server.1.withLog w.log, w.server.2) going after →
      ∃ packet : Option Bytes, after.1.wire = w.server.1.wire ++ packet.toList ∧
        ∀ sent ∈ packet, ∃ addr, GoesTo metDeployment.options.raw sent addr ∧
          ∀ capture ∈ event.captured metDeployment.standing,
            capture.source metDeployment.options.raw = addr := by
  have wire : metWorld.map (fun w => w.server.1.wire.length) = some 3 := by decide +kernel
  obtain ⟨w, met, three⟩ := Option.map_eq_some_iff.mp wire
  exact ⟨w, met, three, (metWorld_run met).no_reflection⟩

end Udp2raw
