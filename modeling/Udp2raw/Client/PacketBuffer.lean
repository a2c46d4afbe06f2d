import Udp2raw.Client.AsyncCb
import Udp2raw.Connection.Stops

/-!
# The packet buffer of the client

A captured packet is put into the buffer and taken out by the first function that parses or
discards it. No other function of the client looks at the buffer: from an empty one they leave
an empty one, and none of their assertions is about it.
-/
namespace Udp2raw

open Proc ClientProc

variable {v : IpVersion} {α : Type} {options : Options v} {route : ClientOptions v}
  {m m' : Machine v} {c c' : Client options}

/-- The assertions about `g_packet_buf_cnt`. -/
def bufferAssertions : List String := ["g_packet_buf_cnt == 0", "g_packet_buf_cnt == 1"]

/-- The process stopped for another reason than the packet buffer. -/
def Fault.Elsewhere (fault : Fault) : Prop := ∀ text ∈ bufferAssertions, fault ≠ .assertion text

/-- An assertion about something else. -/
theorem elsewhere_assertion {text : String} (other : text ∉ bufferAssertions) :
    Fault.Elsewhere (.assertion text) := by
  rintro _ listed same
  obtain rfl := Fault.assertion.inj same
  exact other listed

/-- The process stopped without an assertion. -/
theorem elsewhere_exit (message : String) : Fault.Elsewhere (.exit message) := nofun

/-- The process stopped without an assertion. -/
theorem elsewhere_undefined (pointer : String) : Fault.Elsewhere (.undefined pointer) := nofun

/-- The process stopped without an assertion. -/
theorem elsewhere_endless (loop : String) : Fault.Elsewhere (.endless loop) := nofun

/-! ### Functions of the shared layers -/

/-- A function that finds and leaves the buffer empty, with good values. -/
abbrev KeepsEmpty (proc : Proc v α) (good : α → Prop) : Prop :=
  Maintains (fun machine => machine.packetBufCnt = 0) Fault.Elsewhere proc good

/-- A function that always goes on and leaves the buffer alone. -/
theorem keepsEmpty_of_ran {proc : Proc v α} {good : α → Prop} (total : Total proc)
    (ran : ∀ before value after, Returns proc before value after →
      good value ∧ ∃ events, Ran events before after) : KeepsEmpty proc good := by
  refine .of_total total fun before value after returned empty => ?_
  obtain ⟨holds, _, went⟩ := ran before value after returned
  exact ⟨holds, went.packetBufCnt.trans empty⟩

/-- An answer of the system. -/
theorem ask_keepsEmpty : KeepsEmpty (ask : Proc v (Answer v)) fun _ => True :=
  keepsEmpty_of_ran ask_total fun _ _ _ returned => ⟨trivial, _, (ask_ran returned).1⟩

/-- A note in the record. -/
theorem record_keepsEmpty (event : Event v) : KeepsEmpty (record event) fun _ => True :=
  keepsEmpty_of_ran (record_total event) fun _ _ _ returned => ⟨trivial, _, record_ran returned⟩

/-- The clock. -/
theorem getCurrentTime_keepsEmpty : KeepsEmpty (getCurrentTime : Proc v Nat) fun _ => True :=
  keepsEmpty_of_ran getCurrentTime_total fun _ _ _ returned =>
    ⟨trivial, _, (getCurrentTime_ran returned).1⟩

/-- A random number. -/
theorem getTrueRandomNumber_keepsEmpty :
    KeepsEmpty (getTrueRandomNumber : Proc v UInt32) fun _ => True :=
  .bind ask_keepsEmpty fun _ _ => .pure trivial

/-- An identifier. -/
theorem drawMyId_keepsEmpty : KeepsEmpty (drawMyId : Proc v UInt32) fun _ => True :=
  .bind ask_keepsEmpty fun _ _ => .bind (record_keepsEmpty _) fun _ _ => .pure trivial

/-- An assertion about something else. -/
theorem check_keepsEmpty {condition : Bool} {text : String} (other : text ∉ bufferAssertions) :
    KeepsEmpty (check condition text : Proc v Unit) fun _ => True := by
  refine .lift (fun fault stopped => ?_) fun _ _ => trivial
  cases condition with
  | true => contradiction
  | false => exact Except.error.inj stopped ▸ elsewhere_assertion other

/-- A connection that is there to receive packets. -/
def RawInfo.Receiving {config : RawConfig v} (raw : RawInfo config) : Prop := raw.peek = false

/-- A packet is sent. -/
theorem sendRawPayload_keepsEmpty {raw : RawInfo options.raw} (receiving : raw.Receiving)
    (payload : Bytes) :
    KeepsEmpty (sendRawPayload options raw payload) fun sent => sent.1.Receiving :=
  keepsEmpty_of_ran (sendRawPayload_total raw payload) fun _ _ _ returned =>
    have sent := sendRawPayload_ran returned
    ⟨sent.2.peek.trans receiving, _, sent.1⟩

/-- A handshake is sent. -/
theorem sendHandshake_keepsEmpty {raw : RawInfo options.raw} (receiving : raw.Receiving)
    (id1 id2 id3 : UInt32) :
    KeepsEmpty (sendHandshake options raw id1 id2 id3) RawInfo.Receiving := by
  refine keepsEmpty_of_ran (sendHandshake_total raw id1 id2 id3) fun _ _ _ returned => ?_
  obtain ⟨peer, events, -, ran⟩ := sendHandshake_events returned
  exact ⟨peer.peek.trans receiving, events, ran⟩

section Conversations

variable {τ : Type} [DecidableEq τ] {manager : ConvManager τ}

/-- A key of a collector is used. -/
theorem update_keepsEmpty {lru : LruCollector UInt32} (key : UInt32) :
    KeepsEmpty (lru.update key : Proc v _) fun _ => True :=
  .bind (check_keepsEmpty (by decide)) fun _ _ => .bind getCurrentTime_keepsEmpty fun _ _ =>
    .bind (check_keepsEmpty (by decide)) fun _ _ => .pure trivial

/-- A key gets into a collector. -/
theorem newKey_keepsEmpty {lru : LruCollector UInt32} (key : UInt32) :
    KeepsEmpty (lru.newKey key : Proc v _) fun _ => True := by
  unfold LruCollector.newKey
  split
  · exact .throw (elsewhere_assertion (by decide))
  · exact .bind getCurrentTime_keepsEmpty fun _ _ => .bind (check_keepsEmpty (by decide))
      fun _ _ => .pure trivial

/-- A conversation is used. -/
theorem updateActiveTime_keepsEmpty (conv : UInt32) :
    KeepsEmpty (manager.updateActiveTime conv : Proc v _) fun _ => True :=
  .bind (update_keepsEmpty conv) fun _ _ => .pure trivial

/-- A conversation is created. -/
theorem insertConv_keepsEmpty (conv : UInt32) (data : τ) :
    KeepsEmpty (manager.insertConv conv data : Proc v _) fun _ => True :=
  .bind (newKey_keepsEmpty conv) fun _ _ => .pure trivial

/-- A number for a conversation. -/
theorem getNewConv_keepsEmpty : KeepsEmpty (manager.getNewConv : Proc v _) fun _ => True := by
  refine .bind ask_keepsEmpty fun answer _ => ?_
  split
  · exact .pure trivial
  · exact .throw (elsewhere_endless _)

/-- The conversation of a peer. -/
theorem convOf_keepsEmpty (data : τ) :
    KeepsEmpty (manager.convOf data : Proc v _) fun _ => True := by
  refine .ite (fun _ => .pure trivial) fun _ => .ite (fun _ => .pure trivial) fun _ => ?_
  exact .bind getNewConv_keepsEmpty fun conv _ =>
    .bind (insertConv_keepsEmpty conv data) fun _ _ => .pure trivial

end Conversations

/-- A conversation of the client is erased. -/
theorem eraseConv_elsewhere {conv : UInt32} {state : ConvManager LocalAddress × Unit}
    {fault : Fault}
    (stopped : ConvManager.eraseConv clientClearFunction conv state = .error fault) :
    fault.Elsewhere := by
  by_cases inside : conv ∈ state.1.lru.mp
  · simp [ConvManager.eraseConv, clientClearFunction, assert, inside, bind, Except.bind, pure,
      Except.pure] at stopped
  · have same : Fault.assertion "mp.find(key) != mp.end()" = fault := by
      simpa [ConvManager.eraseConv, clientClearFunction, assert, inside, bind, Except.bind]
        using stopped
    exact same ▸ elsewhere_assertion (by decide)

/-- The oldest conversations of the client are erased. -/
theorem clearOldest_elsewhere (currentTime count : Nat) (state : ConvManager LocalAddress × Unit)
    (fault : Fault) (stopped : ConvManager.clearOldest clientClearFunction currentTime count state =
      .error fault) : fault.Elsewhere := by
  induction count generalizing state with
  | zero => contradiction
  | succ count ih =>
    rw [ConvManager.clearOldest] at stopped
    cases oldest : state.1.lru.q.getLast? with
    | none =>
      rw [oldest] at stopped
      contradiction
    | some node =>
      simp only [oldest] at stopped
      split at stopped
      · contradiction
      cases erased : ConvManager.eraseConv clientClearFunction node.key state with
      | ok next =>
        rw [erased] at stopped
        exact ih next stopped
      | error other =>
        rw [erased] at stopped
        exact Except.error.inj stopped ▸ eraseConv_elsewhere erased

/-- Idle conversations of the client are swept. -/
theorem clearInactive_keepsEmpty (manager : ConvManager LocalAddress) :
    KeepsEmpty (manager.clearInactive clientClearFunction () : Proc v _) fun _ => True := by
  refine .bind getCurrentTime_keepsEmpty fun _ _ => .ite (fun _ => .pure trivial) fun _ => ?_
  refine .bind getCurrentTime_keepsEmpty fun _ _ => .bind getCurrentTime_keepsEmpty fun _ _ => ?_
  exact .lift (clearOldest_elsewhere _ _ _) fun _ _ => trivial

/-! ### The state of the client -/

/-- A connection with a blob that is there to receive packets. -/
structure ConnInfo.Open {σ τ : Type} [DecidableEq τ] (conn : ConnInfo options σ τ) : Prop where
  /-- It receives packets. -/
  receiving : conn.rawInfo.Receiving
  /-- It has a blob. -/
  allocated : conn.blob.isSome

/-- Between two packets the buffer is empty. -/
structure ClientFree (state : Machine v × Client options) : Prop where
  /-- No packet is buffered. -/
  empty : state.1.packetBufCnt = 0
  /-- The connection is there to receive one. -/
  conn : state.2.conn.Open

/-- A function of the client that finds and leaves the buffer empty, with good values. -/
abbrev KeepsFree (proc : ClientProc options α) (good : α → Prop) : Prop :=
  Maintains ClientFree Fault.Elsewhere proc good

namespace ClientProc

/-- A function of the shared layers. -/
theorem call_keepsFree {proc : Proc v α} {good : α → Prop} (keeps : KeepsEmpty proc good) :
    KeepsFree (call proc : ClientProc options α) good := by
  refine fun before free => ⟨.onFirst (keeps before.1 free.empty).1, fun value after returned => ?_⟩
  obtain ⟨returned, same⟩ := call_iff.mp returned
  obtain ⟨holds, empty⟩ := (keeps before.1 free.empty).2 value after.1 returned
  exact ⟨holds, empty, same ▸ free.conn⟩

/-- Reading the connection. -/
theorem theConn_keepsFree :
    KeepsFree (theConn : ClientProc options (ClientConn options)) ConnInfo.Open := by
  refine fun before free => ⟨.of_returns (theConn_iff.mpr ⟨rfl, rfl⟩),
    fun value after returned => ?_⟩
  obtain ⟨rfl, rfl⟩ := theConn_iff.mp returned
  exact ⟨free.conn, free⟩

/-- Changing the client. -/
theorem update_keepsFree {change : Client options → Client options}
    (kept : ∀ client, client.conn.Open → (change client).conn.Open) :
    KeepsFree (update change) fun _ => True := by
  refine fun before free => ⟨.onSecond (.of_total (total_modify change)),
    fun value after returned => ?_⟩
  obtain rfl := update_iff.mp returned
  exact ⟨trivial, free.empty, kept _ free.conn⟩

/-- Storing a connection. -/
theorem store_keepsFree {conn : ClientConn options} (isOpen : conn.Open) :
    KeepsFree (store conn) fun _ => True := update_keepsFree fun _ _ => isOpen

/-- Reading the blob. -/
theorem theBlob_keepsFree {conn : ClientConn options} :
    KeepsFree (run conn.theBlob : ClientProc options _) fun _ => True := by
  refine .lift (fun fault stopped => ?_) fun _ _ => trivial
  unfold ConnInfo.theBlob at stopped
  split at stopped
  · exact Except.error.inj stopped ▸ elsewhere_undefined _
  · contradiction

/-- Getting into a state. -/
theorem enter_keepsFree (state : ClientState) :
    KeepsFree (enter state : ClientProc options Unit) fun _ => True :=
  .bind theConn_keepsFree fun _ isOpen =>
    .bind (store_keepsFree ⟨isOpen.receiving, isOpen.allocated⟩) fun _ _ =>
      call_keepsFree (record_keepsEmpty _)

end ClientProc

section Connections

variable {conn : ClientConn options}

/-- The blob does not matter, as long as there is one. -/
theorem open_withConvs {blob : Blob LocalAddress} {convs : ConvManager LocalAddress}
    (isOpen : conn.Open) : (conn.withConvs blob convs).Open := ⟨isOpen.receiving, rfl⟩

/-- The blob does not matter, as long as there is one. -/
theorem open_withAntiReplay {blob : Blob LocalAddress} {antiReplay : AntiReplay}
    (isOpen : conn.Open) : (conn.withAntiReplay blob antiReplay).Open := ⟨isOpen.receiving, rfl⟩

/-- A connection that went on in its session is still there to receive packets. -/
theorem open_of_kept {next : ClientConn options} (isOpen : conn.Open) (kept : conn.Kept next) :
    next.Open :=
  ⟨kept.peer.peek.trans isOpen.receiving, by rw [kept.blob]; exact isOpen.allocated⟩

/-- A heartbeat is sent. -/
theorem sendHeartbeat_keepsEmpty (isOpen : conn.Open) :
    KeepsEmpty (sendHeartbeat conn) ConnInfo.Open := by
  obtain ⟨blob, had⟩ := Option.isSome_iff_exists.mp isOpen.allocated
  refine keepsEmpty_of_ran (sendHeartbeat_total had) fun _ _ _ returned => ?_
  obtain ⟨blob, _, events, -, kept, -, ran⟩ := sendHeartbeat_ran returned
  exact ⟨open_of_kept (open_withAntiReplay isOpen) kept, events, ran⟩

/-- A datagram is sent. -/
theorem sendDataSafer_keepsEmpty (isOpen : conn.Open) (data : Bytes) (convNum : UInt32) :
    KeepsEmpty (sendDataSafer conn data convNum) ConnInfo.Open := by
  obtain ⟨blob, had⟩ := Option.isSome_iff_exists.mp isOpen.allocated
  refine keepsEmpty_of_ran (sendDataSafer_total had data convNum) fun _ _ _ returned => ?_
  obtain ⟨blob, events, -, kept, -, ran⟩ := sendDataSafer_ran returned
  exact ⟨open_of_kept (open_withAntiReplay isOpen) kept, _, ran⟩

end Connections

/-! ### The timer -/

/-- The local address. -/
theorem getSrcAdress2_keepsEmpty : KeepsEmpty (getSrcAdress2 : Proc v _) fun _ => True :=
  .bind ask_keepsEmpty fun _ _ => .ite (fun _ => .pure trivial) fun _ =>
    .bind ask_keepsEmpty fun _ _ => .pure trivial

/-- A new port. -/
theorem clientBindToANewPort2_keepsEmpty (tries : Nat) :
    KeepsEmpty (clientBindToANewPort2 tries : Proc v UInt16) fun _ => True := by
  induction tries with
  | zero => exact .throw (elsewhere_exit _)
  | succ tries ih =>
    refine .bind getTrueRandomNumber_keepsEmpty fun _ _ => .bind ask_keepsEmpty fun _ _ => ?_
    exact .ite (fun _ => .pure trivial) fun _ => ih

/-- The port of the packet filter. -/
theorem setFilterPort_keepsEmpty (port : UInt16) :
    KeepsEmpty (setFilterPort options port) fun _ => True := by
  have filter : KeepsEmpty (modify fun machine : Machine v => { machine with filterPort := port })
      fun _ => True := by
    refine .of_total (total_modify _) fun before value after returned empty => ?_
    obtain rfl := Returns.modify_iff.mp returned
    exact ⟨trivial, empty⟩
  unfold setFilterPort
  split
  · exact filter
  · exact filter
  · exact .pure trivial

/-- The packet filter. -/
theorem initFilter_keepsEmpty (port : UInt16) :
    KeepsEmpty (initFilter options route port) fun _ => True :=
  .bind (setFilterPort_keepsEmpty port) fun _ _ => .ite (fun _ => .pure trivial) fun _ =>
    .bind ask_keepsEmpty fun _ _ => .ite (fun _ => .pure trivial) fun _ =>
      .throw (elsewhere_exit _)

/-- The sweep. -/
theorem clientSweep_keepsFree : KeepsFree (clientSweep : ClientProc options Unit) fun _ => True :=
  .bind theConn_keepsFree fun _ isOpen => .bind theBlob_keepsFree fun _ _ =>
    .bind (call_keepsFree (clearInactive_keepsEmpty _)) fun _ _ =>
      store_keepsFree (open_withConvs isOpen)

/-- A new identifier. -/
theorem redrawMyId_keepsFree : KeepsFree (redrawMyId : ClientProc options Unit) fun _ => True :=
  .bind (call_keepsFree drawMyId_keepsEmpty) fun _ _ => .bind theConn_keepsFree fun _ isOpen =>
    store_keepsFree ⟨isOpen.receiving, isOpen.allocated⟩

/-- The connection is given up. -/
theorem backToIdle_keepsFree : KeepsFree (backToIdle : ClientProc options Unit) fun _ => True :=
  .bind (enter_keepsFree _) fun _ _ => redrawMyId_keepsFree

/-- The address of the connection. -/
theorem chooseSourceIp_keepsEmpty : KeepsEmpty (chooseSourceIp route) fun _ => True := by
  unfold chooseSourceIp
  split
  · exact .pure trivial
  · exact getSrcAdress2_keepsEmpty

/-- The port of the connection. -/
theorem chooseSourcePort_keepsEmpty : KeepsEmpty (chooseSourcePort route) fun _ => True := by
  unfold chooseSourcePort
  split
  · exact .pure trivial
  · exact clientBindToANewPort2_keepsEmpty 1000

/-- What the last attempt left is forgotten. -/
theorem clientForget_keepsFree :
    KeepsFree (clientForget route : ClientProc options Unit) fun _ => True := by
  have reading : KeepsFree (theClient : ClientProc options (Client options)) fun _ => True := by
    refine fun before free => ⟨.onSecond (.of_total total_get), fun value after returned => ?_⟩
    obtain ⟨-, rfl⟩ := theClient_iff.mp returned
    exact ⟨trivial, free⟩
  refine .bind (update_keepsFree fun _ isOpen => ⟨isOpen.receiving, isOpen.allocated⟩) fun _ _ =>
    .bind reading fun _ _ => .ite (fun _ => .throw (elsewhere_exit _)) fun _ => ?_
  exact .bind theConn_keepsFree fun _ isOpen => .bind theBlob_keepsFree fun _ _ =>
    .bind (store_keepsFree (open_withAntiReplay isOpen)) fun _ _ => redrawMyId_keepsFree

/-- Another address to send from. -/
theorem sendingFrom_receiving {config : RawConfig v} {raw : RawInfo config}
    (receiving : raw.Receiving) (ip : Ip v) (port : UInt16) :
    (raw.sendingFrom ip port).Receiving := by
  unfold RawInfo.sendingFrom
  cases config.rawMode <;> exact receiving

/-- The connection begins. -/
theorem clientBegin_keepsFree (ip : Ip v) :
    KeepsFree (clientBegin route ip : ClientProc options Unit) fun _ => True :=
  .bind (call_keepsFree chooseSourcePort_keepsEmpty) fun port _ =>
    .bind theConn_keepsFree fun _ isOpen =>
    .bind (store_keepsFree ⟨sendingFrom_receiving isOpen.receiving ip port, isOpen.allocated⟩)
      fun _ _ => .bind (call_keepsFree (initFilter_keepsEmpty port)) fun _ _ =>
      .bind (enter_keepsFree _) fun _ _ =>
      .bind (call_keepsFree getCurrentTime_keepsEmpty) fun _ _ =>
      .bind theConn_keepsFree fun _ isOpen => store_keepsFree ⟨isOpen.receiving, isOpen.allocated⟩

/-- The connection leaves `client_idle`. -/
theorem clientConnect_keepsFree :
    KeepsFree (clientConnect route : ClientProc options Bool) fun _ => True := by
  refine .bind clientForget_keepsFree fun _ _ =>
    .bind (call_keepsFree chooseSourceIp_keepsEmpty) fun ip _ => ?_
  cases ip with
  | none => exact .pure trivial
  | some ip => exact .bind (clientBegin_keepsFree ip) fun _ _ => .pure trivial

/-- The numbers of a `SYN`. -/
theorem synNumbers_keepsEmpty {conn : ClientConn options} (isOpen : conn.Open) :
    KeepsEmpty (synNumbers conn) RawInfo.Receiving :=
  .ite (fun _ => .bind getTrueRandomNumber_keepsEmpty fun _ _ =>
    .bind getTrueRandomNumber_keepsEmpty fun _ _ => .pure isOpen.receiving)
    fun _ => .pure isOpen.receiving

/-- A packet of the handshake is sent unless it is too late or too early. -/
theorem retry_keepsFree {conn : ClientConn options} {send : Proc v (RawInfo options.raw)}
    (isOpen : conn.Open) (sends : KeepsEmpty send RawInfo.Receiving) :
    KeepsFree (do
      let rawInfo ← call send
      let lastHbSentTime ← call getCurrentTime
      store { conn with rawInfo, lastHbSentTime }) fun _ => True :=
  .bind (call_keepsFree sends) fun _ receiving =>
    .bind (call_keepsFree getCurrentTime_keepsEmpty) fun _ _ =>
      store_keepsFree ⟨receiving, isOpen.allocated⟩

/-- The first `SYN` and its repetitions. -/
theorem clientSendSyn_keepsFree :
    KeepsFree (clientSendSyn : ClientProc options Unit) fun _ => True :=
  .bind (call_keepsFree (check_keepsEmpty (by decide))) fun _ _ =>
    .bind theConn_keepsFree fun _ isOpen =>
    .bind (call_keepsFree getCurrentTime_keepsEmpty) fun _ _ => .ite (fun _ => enter_keepsFree _)
      fun _ => .bind (call_keepsFree getCurrentTime_keepsEmpty) fun _ _ => .ite
        (fun _ => .bind (call_keepsFree (synNumbers_keepsEmpty isOpen)) fun _ receiving =>
          .bind (call_keepsFree (sendRawPayload_keepsEmpty receiving [])) fun _ still =>
          .bind (call_keepsFree getCurrentTime_keepsEmpty) fun _ _ =>
            store_keepsFree ⟨still, isOpen.allocated⟩)
        fun _ => .pure trivial

/-- Waiting for the dummy socket. -/
theorem clientAwaitDummy_keepsFree :
    KeepsFree (clientAwaitDummy : ClientProc options Unit) fun _ => True :=
  .bind (call_keepsFree (check_keepsEmpty (by decide))) fun _ _ =>
    .bind theConn_keepsFree fun _ _ => .bind (call_keepsFree getCurrentTime_keepsEmpty) fun _ _ =>
      .ite (fun _ => enter_keepsFree _) fun _ => .pure trivial

/-- The bare acknowledgement. -/
theorem sendBareAck_keepsEmpty {raw : RawInfo options.raw} (receiving : raw.Receiving) :
    KeepsEmpty (sendBareAck options raw) RawInfo.Receiving :=
  .ite (fun _ => .pure receiving) fun _ =>
    .bind (sendRawPayload_keepsEmpty receiving []) fun _ still => .pure still

section Numbers

variable {config : RawConfig v} {raw : RawInfo config}

/-- The numbers of a packet do not matter. -/
theorem rewound_receiving (receiving : raw.Receiving) : raw.rewound.Receiving := receiving

/-- The flags of a packet do not matter. -/
theorem acking_receiving (receiving : raw.Receiving) : raw.acking.Receiving := receiving

/-- The numbers of a packet do not matter. -/
theorem advanced_receiving (receiving : raw.Receiving) : raw.advanced.Receiving := receiving

/-- The numbers of a packet do not matter. -/
theorem nextEcho_receiving (receiving : raw.Receiving) : raw.nextEcho.Receiving := receiving

end Numbers

/-- The packets of the first handshake. -/
theorem sendHandshake1_keepsEmpty {conn : ClientConn options} (isOpen : conn.Open) :
    KeepsEmpty (sendHandshake1 conn) RawInfo.Receiving := by
  have opening : (if conn.lastHbSentTime = 0 then conn.rawInfo.openingHandshake1
      else conn.rawInfo).Receiving := by
    split
    · exact isOpen.receiving
    · exact isOpen.receiving
  unfold sendHandshake1
  split
  · exact .bind (sendBareAck_keepsEmpty (acking_receiving (rewound_receiving opening)))
      fun _ receiving => .bind (sendHandshake_keepsEmpty receiving _ _ _) fun _ still =>
        .pure (advanced_receiving still)
  · exact sendHandshake_keepsEmpty isOpen.receiving _ _ _
  · exact .bind (sendHandshake_keepsEmpty isOpen.receiving _ _ _) fun _ still =>
      .pure (nextEcho_receiving still)

/-- The packet of the second handshake. -/
theorem sendHandshake2_keepsEmpty {conn : ClientConn options} (isOpen : conn.Open) :
    KeepsEmpty (sendHandshake2 conn) RawInfo.Receiving := by
  have opening : (if conn.lastHbSentTime = 0 then conn.rawInfo.openingHandshake2
      else conn.rawInfo).Receiving := by
    split
    · exact isOpen.receiving
    · exact isOpen.receiving
  unfold sendHandshake2
  split
  · exact .bind (sendHandshake_keepsEmpty (rewound_receiving opening) _ _ _) fun _ still =>
      .pure (advanced_receiving still)
  · exact sendHandshake_keepsEmpty isOpen.receiving _ _ _
  · exact .bind (sendHandshake_keepsEmpty isOpen.receiving _ _ _) fun _ still =>
      .pure (nextEcho_receiving still)

/-- The first handshake and its repetitions. -/
theorem clientSendHandshake1_keepsFree :
    KeepsFree (clientSendHandshake1 : ClientProc options Unit) fun _ => True :=
  .bind theConn_keepsFree fun _ isOpen =>
    .bind (call_keepsFree getCurrentTime_keepsEmpty) fun _ _ => .ite (fun _ => enter_keepsFree _)
      fun _ => .bind (call_keepsFree getCurrentTime_keepsEmpty) fun _ _ => .ite
        (fun _ => retry_keepsFree isOpen (sendHandshake1_keepsEmpty isOpen))
        fun _ => .pure trivial

/-- The second handshake and its repetitions. -/
theorem clientSendHandshake2_keepsFree :
    KeepsFree (clientSendHandshake2 : ClientProc options Unit) fun _ => True :=
  .bind theConn_keepsFree fun _ isOpen =>
    .bind (call_keepsFree getCurrentTime_keepsEmpty) fun _ _ => .ite (fun _ => enter_keepsFree _)
      fun _ => .bind (call_keepsFree getCurrentTime_keepsEmpty) fun _ _ => .ite
        (fun _ => .bind (call_keepsFree (record_keepsEmpty _)) fun _ _ =>
          retry_keepsFree isOpen (sendHandshake2_keepsEmpty isOpen))
        fun _ => .pure trivial

/-- The heartbeat. -/
theorem clientHeartbeat_keepsFree :
    KeepsFree (clientHeartbeat : ClientProc options Unit) fun _ => True :=
  .bind theConn_keepsFree fun _ isOpen =>
    .bind (call_keepsFree getCurrentTime_keepsEmpty) fun _ _ => .ite (fun _ => .pure trivial)
      fun _ => .bind (call_keepsFree (sendHeartbeat_keepsEmpty isOpen)) fun _ still =>
        .bind (call_keepsFree getCurrentTime_keepsEmpty) fun _ _ =>
          store_keepsFree ⟨still.receiving, still.allocated⟩

/-- The check of the uplink. -/
theorem clientCheckUplink_keepsFree :
    KeepsFree (clientCheckUplink : ClientProc options Unit) fun _ => True :=
  .bind theConn_keepsFree fun _ _ => .bind (call_keepsFree getCurrentTime_keepsEmpty) fun _ _ =>
    .ite (fun _ => backToIdle_keepsFree) fun _ => .pure trivial

/-- The timer of a ready connection. -/
theorem clientKeepAlive_keepsFree :
    KeepsFree (clientKeepAlive : ClientProc options Unit) fun _ => True :=
  .bind (update_keepsFree fun _ isOpen => ⟨isOpen.receiving, isOpen.allocated⟩) fun _ _ =>
    .bind theConn_keepsFree fun _ _ => .bind (call_keepsFree getCurrentTime_keepsEmpty) fun _ _ =>
    .bind (call_keepsFree getCurrentTime_keepsEmpty) fun _ _ =>
      .ite (fun _ => backToIdle_keepsFree) fun _ =>
        .bind clientCheckUplink_keepsFree fun _ _ => clientHeartbeat_keepsFree

/-- The timer of a connection that is not idle. -/
theorem clientOnState_keepsFree :
    KeepsFree (clientOnState : ClientProc options Unit) fun _ => True := by
  refine .bind theConn_keepsFree fun conn _ => ?_
  cases conn.state with
  | tcpHandshake => exact clientSendSyn_keepsFree
  | tcpHandshakeDummy => exact clientAwaitDummy_keepsFree
  | handshake1 => exact clientSendHandshake1_keepsFree
  | handshake2 => exact clientSendHandshake2_keepsFree
  | ready => exact clientKeepAlive_keepsFree
  | idle => exact .throw (elsewhere_exit _)

/-- The check of the resets. -/
theorem clientCheckResets_keepsFree :
    KeepsFree (clientCheckResets : ClientProc options Unit) fun _ => True :=
  .bind theConn_keepsFree fun _ _ => .ite (fun _ => backToIdle_keepsFree) fun _ => .pure trivial

/-- The timer. -/
theorem clientOnTimer_keepsFree :
    KeepsFree (clientOnTimer route : ClientProc options Unit) fun _ => True :=
  .bind clientSweep_keepsFree fun _ _ => .bind clientCheckResets_keepsFree fun _ _ =>
    .bind theConn_keepsFree fun _ _ => .ite
      (fun _ => .bind clientConnect_keepsFree fun _ _ =>
        .ite (fun _ => clientOnState_keepsFree) fun _ => .pure trivial)
      fun _ => clientOnState_keepsFree

/-! ### Messages -/

/-- A note of the time. -/
theorem clientNoteHeartbeat_keepsFree :
    KeepsFree (clientNoteHeartbeat : ClientProc options Unit) fun _ => True :=
  .bind (call_keepsFree getCurrentTime_keepsEmpty) fun _ _ => .bind theConn_keepsFree
    fun _ isOpen => store_keepsFree ⟨isOpen.receiving, isOpen.allocated⟩

/-- A note of the time. -/
theorem clientNoteData_keepsFree :
    KeepsFree (clientNoteData : ClientProc options Unit) fun _ => True := by
  unfold clientNoteData
  split
  · exact clientNoteHeartbeat_keepsFree
  · exact .pure trivial

/-- A datagram of a conversation. -/
theorem clientDeliver_keepsFree (myId : UInt32) (frame : Frame) :
    KeepsFree (clientDeliver myId frame : ClientProc options Unit) fun _ => True :=
  .bind theConn_keepsFree fun _ isOpen => .bind theBlob_keepsFree fun _ _ =>
    .ite (fun _ => .pure trivial) fun _ =>
      .bind (call_keepsFree (updateActiveTime_keepsEmpty _)) fun _ _ =>
      .bind (store_keepsFree (open_withConvs isOpen)) fun _ _ =>
        call_keepsFree (record_keepsEmpty _)

/-- The connection becomes ready. -/
theorem clientBecomeReady_keepsFree :
    KeepsFree (clientBecomeReady : ClientProc options Unit) fun _ => True :=
  .bind (enter_keepsFree _) fun _ _ => .bind (call_keepsFree getCurrentTime_keepsEmpty) fun _ _ =>
    .bind theConn_keepsFree fun _ isOpen => store_keepsFree ⟨isOpen.receiving, isOpen.allocated⟩

/-- The first message completes the handshake. -/
theorem clientCompleteHandshake_keepsFree :
    KeepsFree (clientCompleteHandshake route : ClientProc options Unit) fun _ => True :=
  .bind theConn_keepsFree fun _ _ => .ite
    (fun _ => .bind clientBecomeReady_keepsFree fun _ _ => clientOnTimer_keepsFree)
    fun _ => .pure trivial

/-- One message. -/
theorem clientOnFrame_keepsFree (myId : UInt32) (frame : Frame) :
    KeepsFree (clientOnFrame myId frame : ClientProc options Unit) fun _ => True :=
  .ite (fun _ => clientNoteHeartbeat_keepsFree) fun _ => .ite
    (fun _ => .bind clientNoteData_keepsFree fun _ _ => clientDeliver_keepsFree myId frame)
    fun _ => .pure trivial

/-- A message of the session. -/
theorem clientOnRawRecvHs2OrReady_keepsFree (myId : UInt32) (frame : Frame) :
    KeepsFree (clientOnRawRecvHs2OrReady route myId frame : ClientProc options Unit)
      fun _ => True :=
  .bind theConn_keepsFree fun _ _ => .ite (fun _ => .pure trivial) fun _ =>
    .bind clientCompleteHandshake_keepsFree fun _ _ => clientOnFrame_keepsFree myId frame

/-- The messages of a packet. -/
theorem clientOnFrames_keepsFree (myId : UInt32) (frames : List Frame) :
    KeepsFree (clientOnFrames route myId frames : ClientProc options Unit) fun _ => True := by
  induction frames with
  | nil => exact .pure trivial
  | cons frame frames ih =>
    exact .bind (clientOnRawRecvHs2OrReady_keepsFree myId frame) fun _ _ => ih

/-! ### Datagrams and commands -/

/-- A datagram is sent in a session. -/
theorem clientSendData_keepsFree (bytes : Bytes) (conv : UInt32) :
    KeepsFree (clientSendData bytes conv : ClientProc options Unit) fun _ => True :=
  .bind theConn_keepsFree fun _ isOpen => .ite
    (fun _ => .bind (call_keepsFree (sendDataSafer_keepsEmpty isOpen bytes conv)) fun _ still =>
      store_keepsFree still)
    fun _ => .pure trivial

/-- A note of a new conversation. -/
theorem noteConv_keepsEmpty (manager : ConvManager LocalAddress) (conv : UInt32)
    (addr : LocalAddress) : KeepsEmpty (noteConv manager conv addr : Proc v Unit) fun _ => True :=
  .ite (fun _ => .pure trivial) fun _ => record_keepsEmpty _

/-- A datagram of a local peer. -/
theorem clientOnUdpRecv_keepsFree (received : Option (LocalAddress × Bytes)) :
    KeepsFree (clientOnUdpRecv received : ClientProc options Unit) fun _ => True := by
  cases received with
  | none => exact .pure trivial
  | some datagram =>
    obtain ⟨addr, bytes⟩ := datagram
    refine .ite (fun _ => .pure trivial) fun _ => .bind (call_keepsFree (record_keepsEmpty _))
      fun _ _ => .bind theConn_keepsFree fun _ isOpen => .bind theBlob_keepsFree fun _ _ =>
      .bind (call_keepsFree (convOf_keepsEmpty addr)) fun found _ => ?_
    cases found with
    | none => exact .pure trivial
    | some found =>
      obtain ⟨conv, convManager⟩ := found
      exact .bind (call_keepsFree (noteConv_keepsEmpty _ conv addr)) fun _ _ =>
        .bind (call_keepsFree (updateActiveTime_keepsEmpty conv)) fun _ _ =>
        .bind (store_keepsFree (open_withConvs isOpen)) fun _ _ => clientSendData_keepsFree _ _

/-- A command. -/
theorem fifoCb_keepsFree (bytes : Option Bytes) :
    KeepsFree (fifoCb bytes : ClientProc options Unit) fun _ => True := by
  cases bytes with
  | none => exact .pure trivial
  | some bytes =>
    exact .ite (fun _ => .throw (elsewhere_undefined _)) fun _ =>
      .ite (fun _ => backToIdle_keepsFree) fun _ => .pure trivial

/-! ### Taking a packet -/

/-- A function that takes the buffered packet, with good values. -/
abbrev TakesPacket (proc : Proc v α) (good : α → Prop) : Prop :=
  Leads (fun machine => machine.packetBufCnt = 1) Fault.Elsewhere proc good
    fun machine => machine.packetBufCnt = 0

/-- A packet is buffered. -/
structure ClientFull (state : Machine v × Client options) : Prop where
  /-- The buffer holds one packet. -/
  full : state.1.packetBufCnt = 1
  /-- The connection is there to receive it. -/
  conn : state.2.conn.Open

/-- A function of the client that takes the buffered packet. -/
abbrev HandlesPacket (proc : ClientProc options Unit) : Prop :=
  Leads ClientFull Fault.Elsewhere proc (fun _ => True) ClientFree

/-- A packet is discarded. -/
theorem discardRawPacket_takes : TakesPacket (discardRawPacket : Proc v Unit) fun _ => True :=
  fun _ full => ⟨discardRawPacket_stops full, fun _ _ returned =>
    ⟨trivial, (discardRawPacket_logged returned).2.2⟩⟩

/-- A packet is parsed. -/
theorem recvRawPayload_takes {raw : RawInfo options.raw} (receiving : raw.Receiving) :
    TakesPacket (recvRawPayload options raw) fun received => received.1.Receiving := by
  refine fun before full => ⟨recvRawPayload_stops full fun _ => elsewhere_undefined _,
    fun value after returned => ?_⟩
  obtain ⟨-, -, count, heard, -⟩ := recvRawPayload_logged returned
  rw [show raw.peek = false from receiving] at count
  exact ⟨heard.peek.trans receiving, count⟩

/-- A packet is parsed as a bare message. -/
theorem recvBare_takes {raw : RawInfo options.raw} (receiving : raw.Receiving) :
    TakesPacket (recvBare options raw) fun received => received.1.Receiving := by
  refine fun before full => ⟨recvBare_stops full fun _ => elsewhere_undefined _,
    fun value after returned => ?_⟩
  obtain ⟨-, count, heard, -⟩ := recvBare_logged returned
  rw [show raw.peek = false from receiving] at count
  exact ⟨heard.peek.trans receiving, count⟩

/-- The receipts of a packet leave the connection there to receive the next one. -/
theorem receives_open {state final : ClientConn options × Machine v} {frames : List Frame}
    (receives : Receives state frames final) (isOpen : state.1.Open)
    (empty : state.2.packetBufCnt = 0) : final.1.Open ∧ final.2.packetBufCnt = 0 := by
  induction receives with
  | done => exact ⟨isOpen, empty⟩
  | next receipt _ ih =>
    cases receipt with
    | dropped _ ran => exact ih isOpen (ran.packetBufCnt.trans empty)
    | accepted _ _ kept _ ran =>
      exact ih (open_of_kept (open_withAntiReplay isOpen) kept) (ran.packetBufCnt.trans empty)

/-- A packet is parsed as messages of the session. -/
theorem recvSaferMulti_takes {conn : ClientConn options} (isOpen : conn.Open) :
    TakesPacket (recvSaferMulti conn) fun received => received.1.Open := by
  refine fun before full => ⟨recvSaferMulti_stops full isOpen.allocated
    fun _ => elsewhere_undefined _, fun value after returned => ?_⟩
  obtain ⟨rawInfo, middle, -, -, count, heard, receives⟩ := recvSaferMulti_receives returned
  rw [show conn.rawInfo.peek = false from isOpen.receiving] at count
  exact receives_open receives ⟨heard.peek.trans isOpen.receiving, isOpen.allocated⟩ count

/-- A function of the shared layers takes the packet. -/
theorem call_takes {proc : Proc v α} {good : α → Prop} (takes : TakesPacket proc good) :
    Leads ClientFull Fault.Elsewhere (call proc : ClientProc options α) good ClientFree := by
  refine fun before full => ⟨.onFirst (takes before.1 full.full).1, fun value after returned => ?_⟩
  obtain ⟨returned, same⟩ := call_iff.mp returned
  obtain ⟨holds, empty⟩ := (takes before.1 full.full).2 value after.1 returned
  exact ⟨holds, empty, same ▸ full.conn⟩

/-- Reading the connection. -/
theorem theConn_full : Maintains ClientFull Fault.Elsewhere
    (theConn : ClientProc options (ClientConn options)) ConnInfo.Open := by
  refine fun before full => ⟨.of_returns (theConn_iff.mpr ⟨rfl, rfl⟩),
    fun value after returned => ?_⟩
  obtain ⟨rfl, rfl⟩ := theConn_iff.mp returned
  exact ⟨full.conn, full⟩

/-- The client goes on to the first handshake. -/
theorem clientBeginHandshake1_keepsFree :
    KeepsFree (clientBeginHandshake1 route : ClientProc options Unit) fun _ => True :=
  .bind (enter_keepsFree _) fun _ _ => .bind (call_keepsFree getCurrentTime_keepsEmpty) fun _ _ =>
    .bind theConn_keepsFree fun _ isOpen =>
    .bind (store_keepsFree ⟨isOpen.receiving, isOpen.allocated⟩) fun _ _ => clientOnTimer_keepsFree

/-- The client goes on to the second handshake. -/
theorem clientBeginHandshake2_keepsFree (tmpOppsiteId : UInt32) :
    KeepsFree (clientBeginHandshake2 route tmpOppsiteId : ClientProc options Unit) fun _ => True :=
  .bind theConn_keepsFree fun _ isOpen =>
    .bind (store_keepsFree ⟨isOpen.receiving, isOpen.allocated⟩) fun _ _ =>
    .bind (call_keepsFree (record_keepsEmpty _)) fun _ _ => .bind (enter_keepsFree _) fun _ _ =>
    .bind (call_keepsFree getCurrentTime_keepsEmpty) fun _ _ =>
    .bind theConn_keepsFree fun _ isOpen =>
    .bind (store_keepsFree ⟨isOpen.receiving, isOpen.allocated⟩) fun _ _ => clientOnTimer_keepsFree

/-- A packet in the states that wait for a `SYN-ACK`. -/
theorem clientOnSynAck_handles :
    HandlesPacket (clientOnSynAck route : ClientProc options Unit) := by
  have checking : Maintains ClientFull Fault.Elsewhere
      (call (check (options.raw.rawMode = .faketcp) "raw_mode == mode_faketcp") :
        ClientProc options Unit) fun _ => True := by
    refine fun before full => ⟨.onFirst (.lift fun fault stopped => ?_),
      fun value after returned => ⟨trivial, ?_⟩⟩
    · by_cases faketcp : options.raw.rawMode = .faketcp
      · simp [assert, faketcp] at stopped
      · simp only [assert, faketcp, decide_false, Bool.false_eq_true, if_false] at stopped
        exact Except.error.inj stopped ▸ elsewhere_assertion (by decide)
    · obtain ⟨returned, same⟩ := call_iff.mp returned
      exact ⟨(check_iff.mp returned).2 ▸ full.full, same ▸ full.conn⟩
  refine .bind checking fun _ _ => .bind theConn_full fun conn isOpen =>
    .bind (call_takes (recvRawPayload_takes isOpen.receiving)) fun received receiving => ?_
  obtain ⟨raw, data⟩ := received
  refine .bind (store_keepsFree ⟨receiving, isOpen.allocated⟩) fun _ _ => ?_
  cases data with
  | none => exact .pure trivial
  | some data =>
    refine .ite (fun _ => .pure trivial) fun _ => .ite (fun _ => .pure trivial) fun _ =>
      .ite (fun _ => ?_) fun _ => .pure trivial
    refine .ite (fun _ => .ite (fun _ => .pure trivial) fun _ => clientBeginHandshake1_keepsFree)
      fun _ => ?_
    exact .bind (store_keepsFree ⟨receiving, isOpen.allocated⟩) fun _ _ =>
      clientBeginHandshake1_keepsFree

/-- A packet in `client_handshake1`. -/
theorem clientOnHandshake1_handles :
    HandlesPacket (clientOnHandshake1 route : ClientProc options Unit) := by
  refine .bind theConn_full fun conn isOpen =>
    .bind (call_takes (recvBare_takes isOpen.receiving)) fun received receiving => ?_
  obtain ⟨raw, data⟩ := received
  refine .bind (store_keepsFree ⟨receiving, isOpen.allocated⟩) fun _ _ => ?_
  cases data with
  | none => exact .pure trivial
  | some data =>
    exact .ite (fun _ => .pure trivial) fun _ => .ite (fun _ => .pure trivial) fun _ =>
      .ite (fun _ => .pure trivial) fun _ => .ite (fun _ => .pure trivial) fun _ =>
        clientBeginHandshake2_keepsFree _

/-- A packet in `client_handshake2` or `client_ready`. -/
theorem clientOnSafer_handles :
    HandlesPacket (clientOnSafer route : ClientProc options Unit) := by
  refine .bind theConn_full fun conn isOpen =>
    .bind (call_takes (recvSaferMulti_takes isOpen)) fun received still => ?_
  obtain ⟨conn, frames⟩ := received
  exact .bind (store_keepsFree still) fun _ _ => clientOnFrames_keepsFree _ _

/-- In every state the client takes the packet. -/
theorem clientOnBuffered_handles :
    HandlesPacket (clientOnBuffered route : ClientProc options Unit) := by
  refine .bind theConn_full fun conn _ => ?_
  cases conn.state with
  | idle => exact call_takes discardRawPacket_takes
  | tcpHandshake => exact clientOnSynAck_handles
  | tcpHandshakeDummy => exact clientOnSynAck_handles
  | handshake1 => exact clientOnHandshake1_handles
  | handshake2 => exact clientOnSafer_handles
  | ready => exact clientOnSafer_handles

/-! ### Events -/

/-- A packet is put into the buffer, or the buffer stays empty. -/
theorem preRecvRawPacket_fills (received : Option Capture) {before : Machine v × Client options}
    (free : ClientFree before) :
    Stops (call (preRecvRawPacket options received) : ClientProc options Int) before
        Fault.Elsewhere ∧
      ∀ ret after, Returns (call (preRecvRawPacket options received)) before ret after →
        ret = 0 ∧ ClientFull after ∨ ret = -1 ∧ ClientFree after := by
  constructor
  · refine .onFirst (.bind (.of_total total_get) fun machine state ran => ?_)
    obtain ⟨rfl, rfl⟩ := Returns.get_iff.mp ran
    refine .bind (stops_check (decide_eq_true free.empty)) fun _ _ _ => ?_
    cases received with
    | none => exact .pure _
    | some capture =>
      exact .ite (fun _ => .pure _) fun _ => .ite (fun _ => .pure _) fun _ =>
        .bind (.of_total (total_modify _)) fun _ _ _ => .pure _
  · intro ret after returned
    obtain ⟨returned, same⟩ := call_iff.mp returned
    obtain ⟨-, -, ⟨taken, full⟩ | ⟨refused, still⟩⟩ := preRecvRawPacket_logged returned
    · exact .inl ⟨taken, full, same ▸ free.conn⟩
    · exact .inr ⟨refused, by rw [still]; exact free.empty, same ▸ free.conn⟩

/-- A captured packet. -/
theorem clientOnRawRecv_keepsFree (received : Option Capture) :
    KeepsFree (clientOnRawRecv route received : ClientProc options Unit) fun _ => True := by
  intro before free
  obtain ⟨stops, returns⟩ := preRecvRawPacket_fills received free
  constructor
  · refine .bind stops fun ret state ran => .ite (fun _ => .pure _) fun taken => ?_
    obtain ⟨-, full⟩ | ⟨rfl, -⟩ := returns ret state ran
    · exact (clientOnBuffered_handles state full).1
    · exact absurd (by decide) taken
  · intro value after returned
    obtain ⟨ret, state, ran, returned⟩ := Returns.bind_iff.mp returned
    obtain ⟨rfl, full⟩ | ⟨rfl, still⟩ := returns ret state ran
    · exact (clientOnBuffered_handles state full).2 value after returned
    · obtain ⟨-, rfl⟩ := Returns.pure_iff.mp returned
      exact ⟨trivial, still⟩

/-- Every event of the client leaves the buffer empty. -/
theorem clientOnEvent_keepsFree (event : ClientEvent) :
    KeepsFree (clientOnEvent route event : ClientProc options Unit) fun _ => True := by
  cases event with
  | timer => exact clientOnTimer_keepsFree
  | raw received => exact clientOnRawRecv_keepsFree received
  | udp received => exact clientOnUdpRecv_keepsFree received
  | fifo bytes => exact fifoCb_keepsFree bytes

/-- A packet of the capture queue is put into the buffer. -/
theorem fillPacketBuf_fills (packet : Bytes) :
    Leads ClientFree Fault.Elsewhere (call (fillPacketBuf packet) : ClientProc options Unit)
      (fun _ => True) ClientFull := by
  intro before free
  constructor
  · refine .onFirst (.bind (.of_total (total_modify _)) fun _ state ran => ?_)
    obtain rfl := Returns.modify_iff.mp ran
    refine .bind (.of_total total_get) fun machine state ran => ?_
    obtain ⟨rfl, rfl⟩ := Returns.get_iff.mp ran
    exact .bind (stops_check (decide_eq_true free.empty)) fun _ _ _ =>
      .of_total (total_modify _)
  · intro value after returned
    obtain ⟨returned, same⟩ := call_iff.mp returned
    simp only [fillPacketBuf, Returns.bind_iff, Returns.modify_iff, Returns.get_iff, check_iff]
      at returned
    obtain ⟨_, _, rfl, _, _, ⟨rfl, rfl⟩, _, _, ⟨-, rfl⟩, filled⟩ := returned
    exact ⟨trivial, by rw [← filled], same ▸ free.conn⟩

/-- The drain of the capture queue leaves the buffer empty. -/
theorem asyncCb_keepsFree (linkHeaderLen : Nat) (queue : PacketQueue) :
    KeepsFree (asyncCb route linkHeaderLen queue : ClientProc options _) fun _ => True := by
  have handing (packet : Bytes) : KeepsFree (handPacket route linkHeaderLen packet :
      ClientProc options Unit) fun _ => True :=
    .ite (fun _ => .throw (elsewhere_undefined _)) fun _ =>
      .bind (fillPacketBuf_fills _) fun _ _ => clientOnBuffered_handles
  have looping (fuel : Nat) (queue : PacketQueue) :
      KeepsFree (asyncLoop route linkHeaderLen fuel queue : ClientProc options _)
        fun _ => True := by
    induction fuel generalizing queue with
    | zero => exact .throw (elsewhere_endless _)
    | succ fuel ih =>
      rw [asyncLoop_succ]
      exact .ite (fun _ => .pure trivial) fun _ => .ite (fun _ => .pure trivial) fun _ =>
        .bind (handing _) fun _ _ => ih queue.pop
  exact looping queueLen queue

/-- A client that starts has an empty buffer. -/
theorem clientStart_free {answers : Nat → Answer v} {filterPort : UInt16} {self : Party}
    (returned : Returns (clientStart options route) (.start self answers filterPort) c m) :
    ClientFree (m, c) := by
  simp only [clientStart, Returns.bind_iff, Returns.pure_iff] at returned
  obtain ⟨conn, _, one, _, _, two, prepared, _, three, rfl, rfl⟩ := returned
  obtain ⟨first, -, -, -, -, peek⟩ := newConnInfo_ran one
  obtain ⟨last, -, blob, rfl, -⟩ := prepare_ran three
  have ran := (first.trans (drawMyId_ran two).1).trans last
  exact ⟨ran.packetBufCnt, peek, rfl⟩

end Udp2raw
