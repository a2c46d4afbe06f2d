import Udp2raw.Client.KeySchedules
import Udp2raw.Server.KeySchedules
import Udp2raw.System.Handshakes
import Udp2raw.System.World

/-!
# Ciphertexts of a run

The parties of a tunnel share a password and act in any order, and each of them keeps its key
schedules in static variables. Whatever they did before, a ciphertext of one side is read by the
other side as the message it was made from, at any later time and as often as it arrives.
-/
namespace Udp2raw

variable {v : IpVersion} {ι : Type} {d : Deployment v ι} {w : World d}

/-- The server and its clients use one password, with the same functions in the same modes. -/
structure Deployment.OnePassword (d : Deployment v ι) (userPasswd : Bytes) : Prop where
  /-- The keys of the server. -/
  server : d.options.keys = myInitKeys d.options.prim userPasswd false
  /-- The keys of the clients. -/
  client : ∀ i, (d.clientOptions i).keys = myInitKeys d.options.prim userPasswd true
  /-- The functions of the clients. -/
  prim : ∀ i, (d.clientOptions i).prim = d.options.prim
  /-- The modes of the clients. -/
  crypto : ∀ i, (d.clientOptions i).crypto = d.options.crypto

/-- What is read from bytes in a state. -/
def Machine.reads (options : Options v) (machine : Machine v) (input : Bytes) : Decrypted :=
  (myDecrypt options.prim options.crypto options.keys machine.aes input).1

/-- Everything that a party recorded is stateless. -/
def LogStateless (d : Deployment v ι) (log : Log v) : Prop :=
  (∀ event, (Party.server, event) ∈ log → event.Stateless d.options) ∧
    ∀ constId event, (Party.client constId, event) ∈ log →
      ∃ i, event.Stateless (d.clientOptions i)

/-- The server adds what is stateless. -/
theorem LogStateless.server {log : Log v} {events : List (Event v)} (before : LogStateless d log)
    (added : ∀ event ∈ events, event.Stateless d.options) :
    LogStateless d (log ++ entries .server events) := by
  constructor
  · intro event inside
    rcases List.mem_append.mp inside with early | late
    · exact before.1 event early
    · obtain ⟨other, there, same⟩ := List.mem_map.mp late
      rw [← (Prod.mk.inj same).2]
      exact added other there
  · intro constId event inside
    rcases List.mem_append.mp inside with early | late
    · exact before.2 constId event early
    · obtain ⟨other, -, same⟩ := List.mem_map.mp late
      cases (Prod.mk.inj same).1

/-- A client adds what is stateless. -/
theorem LogStateless.client {log : Log v} {events : List (Event v)} {constId : UInt32} (i : ι)
    (before : LogStateless d log)
    (added : ∀ event ∈ events, event.Stateless (d.clientOptions i)) :
    LogStateless d (log ++ entries (.client constId) events) := by
  constructor
  · intro event inside
    rcases List.mem_append.mp inside with early | late
    · exact before.1 event early
    · obtain ⟨other, -, same⟩ := List.mem_map.mp late
      cases (Prod.mk.inj same).1
  · intro constId event inside
    rcases List.mem_append.mp inside with early | late
    · exact before.2 constId event early
    · obtain ⟨other, there, same⟩ := List.mem_map.mp late
      rw [← (Prod.mk.inj same).2]
      exact ⟨i, added other there⟩

/-- What the parties of a run encrypt and decrypt is stateless. -/
theorem WorldRun.stateless [DecidableEq ι] (run : WorldRun d w) : LogStateless d w.log := by
  induction run with
  | start =>
    constructor
    · intro event inside
      cases inside
    · intro constId event inside
      cases inside
  | @server w event going after earlier returned ih =>
    have reachable := earlier.server_reachable
    have keyed := serverOnEvent_keyed _ _ _ _ _ returned
    obtain ⟨-, events, grown, added⟩ := keyed.run reachable.scheduled
    have self : w.server.1.self = .server := reachable.self_eq
    show LogStateless d after.1.log
    rw [grown]
    show LogStateless d (w.log ++ entries w.server.1.self events)
    rw [self]
    exact ih.server added
  | @connect w i machine client earlier absent returned ih =>
    have keyed := clientStart_keyed (d.route i) _ _ _ returned
    have initial := AesState.initial_holds (d.clientOptions i).crypto (d.clientOptions i).keys
    obtain ⟨-, events, grown, added⟩ := keyed.run initial
    show LogStateless d (w.log ++ machine.log)
    rw [grown]
    exact ih.client i added
  | @client w i event before after earlier present returned ih =>
    have reachable := earlier.client_reachable present
    have keyed := clientOnEvent_keyed _ _ _ _ _ returned
    obtain ⟨-, events, grown, added⟩ := keyed.run reachable.scheduled
    have self : before.1.self = .client (d.clientOptions i).constId := reachable.self_eq
    show LogStateless d after.1.log
    rw [grown]
    show LogStateless d (w.log ++ entries before.1.self events)
    rw [self]
    exact ih.client i added

/-- A stateless ciphertext is read by the peer as its message. -/
theorem reads_peer {sender receiver : Options v} {machine : Machine v} {message output : Bytes}
    (keys : Peers sender.keys receiver.keys) (prim : receiver.prim = sender.prim)
    (crypto : receiver.crypto = sender.crypto) (scheduled : Scheduled receiver machine)
    (stateless : (Event.encrypted message output : Event v).Stateless sender)
    (fits : output.length ≤ maxDataLen) :
    (machine.reads receiver output).len = some message.length ∧
      (machine.reads receiver output).written.take message.length = message := by
  obtain ⟨long, junk, encrypted⟩ := stateless
  have pure : machine.reads receiver output =
      pureDecrypt receiver.prim receiver.crypto receiver.keys output :=
    (@myDecrypt_pure receiver.prim _ _ _ scheduled output).1
  rw [pure, prim, crypto]
  exact pureEncrypt_roundtrip keys long encrypted fits

/-- A stateless ciphertext that a peer decrypted was decrypted to its message. -/
theorem decrypted_peer {sender receiver : Options v} {message output other : Bytes}
    (keys : Peers sender.keys receiver.keys) (prim : receiver.prim = sender.prim)
    (crypto : receiver.crypto = sender.crypto)
    (sent : (Event.encrypted message output : Event v).Stateless sender)
    (received : (Event.decrypted output other : Event v).Stateless receiver) : other = message := by
  obtain ⟨long, junk, encrypted⟩ := sent
  obtain ⟨len, read, rfl⟩ := received
  -- what was decrypted is not too long
  have fits : output.length ≤ maxDataLen := by
    by_contra huge
    rw [pureDecrypt, if_pos (Nat.lt_of_not_le huge)] at read
    contradiction
  rw [prim, crypto] at read ⊢
  obtain ⟨length, written⟩ := pureEncrypt_roundtrip keys long encrypted fits
  have same : len = message.length := Option.some.inj (read.symm.trans length)
  rw [same]
  exact written

section Shared

variable {userPasswd : Bytes} (shared : d.OnePassword userPasswd)

include shared

/-- The client side of the password is the peer of the server side. -/
theorem Deployment.OnePassword.uplink (i : ι) : Peers (d.clientOptions i).keys d.options.keys := by
  rw [shared.client i, shared.server]
  exact myInitKeys_peers d.options.prim userPasswd true

/-- The server side of the password is the peer of the client side. -/
theorem Deployment.OnePassword.downlink (i : ι) :
    Peers d.options.keys (d.clientOptions i).keys := by
  rw [shared.client i, shared.server]
  exact myInitKeys_peers d.options.prim userPasswd false

/-- At every point of every run the server reads every ciphertext of a client as its message, and
every client reads every ciphertext of the server so, if it fits; and what either side decrypted
from such a ciphertext is its message. -/
theorem WorldRun.ciphertexts [DecidableEq ι] (run : WorldRun d w) :
    (∀ constId message output, (Party.client constId, Event.encrypted message output) ∈ w.log →
      output.length ≤ maxDataLen →
      (w.server.1.reads d.options output).len = some message.length ∧
        (w.server.1.reads d.options output).written.take message.length = message) ∧
    (∀ message output, (Party.server, Event.encrypted message output) ∈ w.log →
      output.length ≤ maxDataLen → ∀ i state, w.client i = some state →
      (state.1.reads (d.clientOptions i) output).len = some message.length ∧
        (state.1.reads (d.clientOptions i) output).written.take message.length = message) ∧
    ∀ constId message output other,
      ((Party.client constId, Event.encrypted message output) ∈ w.log →
        (Party.server, Event.decrypted output other) ∈ w.log → other = message) ∧
      ((Party.server, Event.encrypted message output) ∈ w.log →
        (Party.client constId, Event.decrypted output other) ∈ w.log → other = message) := by
  have stateless := run.stateless
  refine ⟨?_, ?_, ?_⟩
  · intro constId message output sent fits
    obtain ⟨i, computed⟩ := stateless.2 constId _ sent
    exact reads_peer (shared.uplink i) (shared.prim i).symm (shared.crypto i).symm
      run.server_reachable.scheduled computed fits
  · intro message output sent fits i state started
    exact reads_peer (shared.downlink i) (shared.prim i) (shared.crypto i)
      (run.client_reachable started).scheduled (stateless.1 _ sent) fits
  · intro constId message output other
    constructor
    · intro sent received
      obtain ⟨i, computed⟩ := stateless.2 constId _ sent
      exact decrypted_peer (shared.uplink i) (shared.prim i).symm (shared.crypto i).symm computed
        (stateless.1 _ received)
    · intro sent received
      obtain ⟨i, computed⟩ := stateless.2 constId _ received
      exact decrypted_peer (shared.downlink i) (shared.prim i) (shared.crypto i)
        (stateless.1 _ sent) computed

end Shared

/-- A client made a ciphertext that fits. -/
def isClientCiphertext : Party × Event v → Bool
  | (.client _, .encrypted _ output) => output.length ≤ maxDataLen
  | _ => false

/-- The parties of a run that completes a handshake use one password. -/
theorem metDeployment_onePassword : metDeployment.OnePassword [1] :=
  ⟨rfl, fun _ => rfl, fun _ => rfl, fun _ => rfl⟩

/-- In that run the client made a ciphertext, and the server reads it as its message. -/
theorem ciphertexts_met : ∃ w, metWorld = some w ∧ ∃ constId message output,
    (Party.client constId, Event.encrypted message output) ∈ w.log ∧
    (w.server.1.reads metDeployment.options output).len = some message.length ∧
    (w.server.1.reads metDeployment.options output).written.take message.length = message := by
  have some : metWorld.map (fun w => w.log.any isClientCiphertext) = some true := by decide +kernel
  obtain ⟨w, met, found⟩ := Option.map_eq_some_iff.mp some
  obtain ⟨⟨party, event⟩, inside, holds⟩ := List.any_eq_true.mp found
  have whole := (metWorld_run met).ciphertexts metDeployment_onePassword
  unfold isClientCiphertext at holds
  split at holds
  · rename_i constId message output same
    obtain ⟨rfl, rfl⟩ := Prod.mk.inj same
    have fits : output.length ≤ maxDataLen := of_decide_eq_true holds
    have read := whole.1 constId message output inside fits
    exact ⟨w, met, constId, message, output, inside, read.1, read.2⟩
  · contradiction

end Udp2raw
