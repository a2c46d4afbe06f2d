import Udp2raw.Client.Attempts
import Udp2raw.Connection.SendBuffers
import Udp2raw.Server.HandshakeReplies

/-!
# The numbers of a handshake agree

The client repeats its first handshake with the same numbers, however often it sends it and
whatever it hears meanwhile, and the server answers each segment by what that segment says. So a
reply to any of the handshakes of an attempt fits the connection for as long as the attempt
lasts, whatever was lost, repeated or late before.
-/
namespace Udp2raw

variable {v : IpVersion} {clientOptions serverOptions : Options v} {route : ClientOptions v}
  {answers : Nat → Answer v} {filterPort : UInt16}
  {history : List (ClientEvent × (Machine v × Client clientOptions))}
  {state : Machine v × Client clientOptions}

/-- A handshake fits into an IP packet. -/
theorem handshake_fits (options : Options v) {info : PacketInfo v} (plain : info.syn = false) :
    v.headerSize + tcpDoff info.syn * 4 + handshakeLen options < 65536 := by
  have sealed : handshakeLen options ≤ 29 + 36 := ciphertextLen_le _ _
  have header : v.headerSize ≤ 40 := by cases v <;> decide
  have doff : tcpDoff info.syn * 4 = 32 := by
    rw [plain]
    rfl
  omega

section Faketcp

variable (mode : clientOptions.raw.rawMode = .faketcp)
  (direct : clientOptions.useTcpDummySocket = false) (drop : clientOptions.raw.randomDrop = 0)
  (works : ∀ asked, (answers asked).send.sendtoOk = true)
  (serverMode : serverOptions.raw.rawMode = .faketcp)

include mode

/-- A handshake of the attempt begins where the attempt began and ends where the connection
stands, and acknowledges what the connection acknowledges. -/
theorem RawInfo.Advanced.numbers {raw : RawInfo clientOptions.raw} {packets : List Bytes}
    (advanced : raw.Advanced packets) {packet : Bytes} (inside : packet ∈ packets)
    (stale : Nat → UInt8) :
    let numbers := Capture.tcpNumbers v ⟨onWire clientOptions.raw packet, stale⟩
    numbers.syn = false ∧ numbers.ackSeq = raw.sendInfo.ackSeq ∧
      (numbers.dataLen ≠ 0 → numbers.seq + UInt32.ofNat numbers.dataLen = raw.sendInfo.seq) := by
  obtain ⟨source, payload, sends, seq, ackSeq, syn, length⟩ := advanced.attempted packet inside
  obtain ⟨sameSeq, sameAckSeq, sameSyn, dataLen⟩ := sends.tcpNumbers mode stale
  have fits := handshake_fits clientOptions syn
  have short : payload.length ≤ handshakeLen clientOptions := by
    obtain rfl | length := length
    · exact Nat.zero_le _
    · exact length.le
  refine ⟨sameSyn.trans syn, sameAckSeq.trans ackSeq, fun carries => ?_⟩
  have carried := dataLen (by omega)
  rw [carried] at carries
  have whole : payload.length = handshakeLen clientOptions := by
    refine length.resolve_left ?_
    rintro rfl
    exact carries rfl
  rw [carried, sameSeq, seq, whole, advanced.seq]

include direct drop works serverMode

/-- In faketcp mode without the dummy socket and without random drop, while local sends succeed:
whatever the server sends for a handshake of the attempt that the client is in passes the
client's comparison of the numbers, in every state of the server and after every run of the
client. -/
theorem ClientRun.handshake_numbers_agree
    (run : ClientRun clientOptions route answers filterPort history state)
    (waiting : state.2.conn.state = .handshake1) {request : Bytes}
    (inside : request ∈ attemptPackets history state) {stale : Nat → UInt8}
    (carries : (Capture.tcpNumbers v ⟨onWire clientOptions.raw request, stale⟩).dataLen ≠ 0)
    {before after : Machine v × Server serverOptions}
    (handled : Returns
      (serverOnRawRecvMulti (some ⟨onWire clientOptions.raw request, stale⟩)) before () after) :
    ∃ replies, after.1.wire = before.1.wire ++ replies ∧
      ∀ reply ∈ replies, ∀ staleReply buffered raw data parsed,
        Returns (preRecvRawPacket clientOptions
          (some ⟨onWire serverOptions.raw reply, staleReply⟩)) state.1 0 buffered →
        Returns (recvBare clientOptions state.2.conn.rawInfo) buffered (raw, some data) parsed →
        raw.numbersMatch = true := by
  obtain ⟨-, outcome⟩ := run.aligned mode direct drop works waiting
  obtain ⟨-, nothing⟩ | ⟨-, -, advanced⟩ := outcome
  · rw [attemptPackets, nothing] at inside
    contradiction
  obtain ⟨plain, ackSeq, ends⟩ := advanced.numbers mode inside stale
  obtain ⟨replies, wire, each⟩ := serverOnRawRecvMulti_repliesTo serverMode plain handled
  refine ⟨replies, wire, fun reply sent staleReply buffered raw data parsed captured received => ?_⟩
  have answers := each reply sent staleReply
  have capturedNumbers := preRecvRawPacket_numbers (by decide) captured
  obtain ⟨heard, sendInfo⟩ := recvBare_numbers mode received
  rw [capturedNumbers] at heard
  have acknowledged : raw.recvInfo.ackSeq = raw.sendInfo.seq := by
    rw [sendInfo, ← ends carries, ← answers.ackSeq, ← heard]
    rfl
  have continued : raw.recvInfo.seq = raw.sendInfo.ackSeq := by
    rw [sendInfo, ← ackSeq, ← answers.seq, ← heard]
    rfl
  rw [RawInfo.numbersMatch, mode]
  exact decide_eq_true ⟨acknowledged, continued⟩

end Faketcp

/-! ### A handshake that wraps around -/

/-- The client connects from port 1000 of 10.0.0.1 to port 4096 of 10.0.0.2. -/
def wrappedRoute : ClientOptions .ipv4 :=
  ⟨silentRoute.remoteAddr, some (handshakeAddress 1000).ip, some 1000, 0, false⟩

/-- The answers of a system whose clock says five seconds, and whose random numbers are so large
that what is sent wraps around. -/
def wrappedAnswers (_ : Nat) : Answer .ipv4 :=
  { Answer.plain with rawTime := 5000000, word := 4294967290 }

/-- The client starts. -/
theorem wrappedStart_goes : (resultOf (clientStart plainClientOptions wrappedRoute)
    (.start (.client 7) wrappedAnswers 0)).isSome = true := by
  decide +kernel

/-- The client that started. -/
def wrappedStart : Machine .ipv4 × Client plainClientOptions :=
  (leaves (clientStart plainClientOptions wrappedRoute) (.start (.client 7) wrappedAnswers 0),
    (resultOf (clientStart plainClientOptions wrappedRoute)
      (.start (.client 7) wrappedAnswers 0)).get wrappedStart_goes)

/-- The last packet that a process sent, when it is captured. -/
def lastCapture (config : RawConfig .ipv4) (machine : Machine .ipv4) : Capture :=
  ⟨onWire config (machine.wire.getLastD []), fun _ => 0⟩

/-- The client after its `SYN`. -/
def wrappedSyn : Machine .ipv4 × Client plainClientOptions :=
  leaves (clientOnEvent wrappedRoute .timer) wrappedStart

/-- The server after its answer to the `SYN`. -/
def wrappedSynAck : Machine .ipv4 × Server plainOptions :=
  leaves (serverOnRawRecvMulti (some (lastCapture plainClient wrappedSyn.1)))
    (.start .server wrappedAnswers 4096, .start)

/-- The answer to the `SYN`. -/
def wrappedAnswer : ClientEvent := .raw (some (lastCapture plainServer wrappedSynAck.1))

/-- The client after its first handshake. -/
def wrappedWaiting : Machine .ipv4 × Client plainClientOptions :=
  leaves (clientOnEvent wrappedRoute wrappedAnswer) wrappedSyn

/-- The server after its reply to that handshake. -/
def wrappedReply : Machine .ipv4 × Server plainOptions :=
  leaves (serverOnRawRecvMulti (some (lastCapture plainClient wrappedWaiting.1))) wrappedSynAck

/-- The client sends its `SYN` and, after the answer, its first handshake. -/
theorem wrappedWaiting_run :
    ClientRun plainClientOptions wrappedRoute wrappedAnswers 0
      [(.timer, wrappedStart), (wrappedAnswer, wrappedSyn)] wrappedWaiting := by
  have started : ClientRun plainClientOptions wrappedRoute wrappedAnswers 0 [] wrappedStart :=
    .start (returns_of_resultOf (Option.some_get wrappedStart_goes).symm)
  have timer : resultOf (clientOnEvent wrappedRoute .timer) wrappedStart = some () := by
    decide +kernel
  have answered : resultOf (clientOnEvent wrappedRoute wrappedAnswer) wrappedSyn = some () := by
    decide +kernel
  exact (started.event (returns_of_resultOf timer)).event (returns_of_resultOf answered)

/-- The reply to a handshake whose numbers wrap around fits. -/
theorem handshake_numbers_agree_wrapped :
    wrappedReply.1.wire.length = 2 ∧
      ∃ replies, wrappedReply.1.wire = wrappedSynAck.1.wire ++ replies ∧
        ∀ reply ∈ replies, ∀ staleReply buffered raw data parsed,
        Returns (preRecvRawPacket plainClientOptions
          (some ⟨onWire plainServer reply, staleReply⟩)) wrappedWaiting.1 0 buffered →
        Returns (recvBare plainClientOptions wrappedWaiting.2.conn.rawInfo) buffered
          (raw, some data) parsed →
        raw.numbersMatch = true := by
  have handled : resultOf (serverOnRawRecvMulti (some (lastCapture plainClient wrappedWaiting.1)))
      wrappedSynAck = some () := by
    decide +kernel
  refine ⟨by decide +kernel, ?_⟩
  exact ClientRun.handshake_numbers_agree rfl rfl rfl (fun _ => rfl) rfl wrappedWaiting_run
    (by decide +kernel) (by decide +kernel) (by decide +kernel) (returns_of_resultOf handled)

end Udp2raw
