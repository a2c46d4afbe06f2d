import Udp2raw.Connection.GroFraming

/-!
# What a rejected message leaves behind

`reserved_parse_safer` decrypts into a static buffer and looks at the type and at the length of
a message only after the anti-replay window has taken its number. The result is written here as
a function of the buffer, which shows what a rejection may change and when the bytes of an
earlier packet matter.
-/
namespace Udp2raw

open Proc AntiReplay

variable {v : IpVersion} {options : Options v} {σ τ : Type} [DecidableEq τ] {m m' : Machine v}

/-- The time that the clock shows next. -/
def Machine.nextTime (machine : Machine v) : Nat :=
  max machine.largestValue ((machine.answers machine.asked).rawTime + machine.valueFix) / 1000

/-- `get_current_time` shows the next time. -/
theorem getCurrentTime_next {time : Nat} (returned : Returns getCurrentTime m time m') :
    time = m.nextTime := by
  simp only [getCurrentTime, getCurrentTimeUs, ask, Returns.bind_iff, Returns.get_iff,
    Returns.set_iff, Returns.pure_iff] at returned
  obtain ⟨micros, _, ⟨answer, _, ⟨_, _, ⟨rfl, rfl⟩, _, _, rfl, rfl, rfl⟩, _, _, ⟨rfl, rfl⟩, fixed⟩,
    rfl, rfl⟩ := returned
  unfold Machine.nextTime
  split at fixed
  · rename_i behind
    simp only [Returns.bind_iff, Returns.set_iff, Returns.pure_iff] at fixed
    obtain ⟨_, _, rfl, rfl, rfl⟩ := fixed
    congr 1
    omega
  · rename_i ahead
    simp only [Returns.bind_iff, Returns.set_iff, Returns.pure_iff] at fixed
    obtain ⟨_, _, rfl, rfl, rfl⟩ := fixed
    dsimp only at ahead
    congr 1
    omega

/-- The number of a header. -/
def seqOf (header : Bytes) : UInt64 := UInt64.ofNat (BigEndian.decode (header.drop 8))

namespace ConnInfo

/-- A header has the identifiers of the session. -/
def Addresses (conn : ConnInfo options σ τ) (header : Bytes) : Prop :=
  idAt header 0 = conn.oppsiteId ∧ idAt header 4 = conn.myId

/-- The session takes the number of a header. -/
def Admits (conn : ConnInfo options σ τ) (blob : Blob τ) (header : Bytes) : Prop :=
  conn.Addresses header ∧
    (blob.antiReplay.isVaild options.disableAntiReplay (seqOf header)).1 = true

/-- The connection after a roller was seen at a time. -/
def rolled (conn : ConnInfo options σ τ) (roller : UInt8) (time : Nat) : ConnInfo options σ τ :=
  if roller ≠ conn.oppsiteRoller then
    { conn with oppsiteRoller := roller, lastOppsiteRollerTime := time }
  else conn

/-- What `reserved_parse_safer` makes of its buffer after the decryption. -/
def verdict (conn : ConnInfo options σ τ) (blob : Blob τ) (len : Option Nat) (buffer : Scratch)
    (time : Nat) : ConnInfo options σ τ × Option Frame :=
  match len with
  | none => (conn, none)
  | some len =>
    let header := buffer.read 0 16
    if idAt header 0 ≠ conn.oppsiteId ∨ idAt header 4 ≠ conn.myId then (conn, none)
    else
      let checked := blob.antiReplay.isVaild options.disableAntiReplay (seqOf header)
      if checked.1 = false then (conn, none)
      else
        let conn := conn.withAntiReplay blob checked.2
        if buffer 16 ≠ typeHeartbeat ∧ buffer 16 ≠ typeData then (conn, none)
        else if len < 18 then (conn, none)
        else ((conn.rolled (buffer 17) time).receive (buffer 16),
          some ⟨seqOf header, buffer 16, buffer.read 18 (len - 18)⟩)

variable {conn : ConnInfo options σ τ} {blob : Blob τ} {header : Bytes} {len : Nat}
  {buffer : Scratch} {time : Nat}

/-- A message without the right header is dropped. -/
theorem verdict_foreign (foreign : ¬conn.Admits blob (buffer.read 0 16)) :
    conn.verdict blob (some len) buffer time = (conn, none) := by
  unfold verdict
  dsimp only
  split
  · rfl
  rename_i ids
  rw [not_or, not_not, not_not] at ids
  rw [if_pos]
  rw [← Bool.not_eq_true]
  exact fun valid => foreign ⟨ids, valid⟩

/-- A message with the right header moves the window, whatever follows. -/
theorem verdict_admitted (admits : conn.Admits blob (buffer.read 0 16)) :
    conn.verdict blob (some len) buffer time =
      let conn := conn.withAntiReplay blob
        (blob.antiReplay.isVaild options.disableAntiReplay (seqOf (buffer.read 0 16))).2
      if buffer 16 ≠ typeHeartbeat ∧ buffer 16 ≠ typeData then (conn, none)
      else if len < 18 then (conn, none)
      else ((conn.rolled (buffer 17) time).receive (buffer 16),
        some ⟨seqOf (buffer.read 0 16), buffer 16, buffer.read 18 (len - 18)⟩) := by
  obtain ⟨⟨opposite, mine⟩, valid⟩ := admits
  unfold verdict
  dsimp only
  rw [if_neg (by simp [opposite, mine]), if_neg (by simp [valid])]

/-- A roller is noted with the time that the clock shows. -/
theorem noteRoller_next {next : ConnInfo options σ τ} {roller : UInt8}
    (returned : Returns (conn.noteRoller roller) m next m') :
    next = conn.rolled roller m.nextTime := by
  unfold noteRoller at returned
  unfold rolled
  split at returned
  · rename_i moved
    simp only [Returns.bind_iff, Returns.pure_iff] at returned
    obtain ⟨time, _, timed, rfl, rfl⟩ := returned
    rw [if_pos moved, getCurrentTime_next timed]
  · rename_i same
    obtain ⟨rfl, -⟩ := Returns.pure_iff.mp returned
    rw [if_neg same]

end ConnInfo

/-- `reserved_parse_safer` decides about its buffer after the decryption. -/
theorem reservedParseSafer_verdict {conn next : ConnInfo options σ τ} {blob : Blob τ}
    {input : Bytes} {frame : Option Frame} (allocated : conn.blob = some blob)
    (returned : Returns (reservedParseSafer conn input) m (next, frame) m') :
    let decrypted := (myDecrypt options.prim options.crypto options.keys m.aes input).1
    (next, frame) =
      conn.verdict blob decrypted.len (m.saferBuf.write decrypted.written) m.nextTime := by
  simp only [reservedParseSafer, decryptInto, Returns.bind_iff, Returns.get_iff,
    Returns.set_iff] at returned
  obtain ⟨_, _, ⟨rfl, rfl⟩, ⟨buffer, len⟩, m1, ⟨_, _, ⟨rfl, rfl⟩, _, _, rfl, decrypted⟩, _, m2,
    stored, returned⟩ := returned
  obtain rfl := Returns.modify_iff.mp stored
  dsimp only
  generalize myDecrypt options.prim options.crypto options.keys m.aes input = result at decrypted ⊢
  cases length : result.1.len with
  | none =>
    simp only [length, Returns.pure_iff, Prod.mk.injEq] at decrypted
    obtain ⟨⟨-, rfl⟩, rfl⟩ := decrypted
    obtain ⟨same, -⟩ := Returns.pure_iff.mp returned
    exact same.symm
  | some len' =>
    simp only [length, Returns.bind_iff, Returns.pure_iff, Prod.mk.injEq, record,
      Returns.modify_iff] at decrypted
    obtain ⟨_, _, rfl, ⟨rfl, rfl⟩, rfl⟩ := decrypted
    unfold ConnInfo.verdict
    dsimp only at returned ⊢
    split at returned
    · rename_i ids
      obtain ⟨same, -⟩ := Returns.pure_iff.mp returned
      rw [if_pos ids]
      exact same.symm
    rename_i ids
    rw [if_neg ids]
    simp only [Returns.bind_iff, Returns.lift_iff, ConnInfo.theBlob, allocated, Except.ok.injEq]
      at returned
    obtain ⟨_, _, ⟨rfl, rfl⟩, returned⟩ := returned
    rw [show UInt64.ofNat (BigEndian.decode (List.drop 8 ((m.saferBuf.write result.1.written).read
      0 16))) = seqOf ((m.saferBuf.write result.1.written).read 0 16) from rfl] at returned
    split at returned
    · rename_i invalid
      obtain ⟨same, -⟩ := Returns.pure_iff.mp returned
      rw [if_pos invalid]
      exact same.symm
    rename_i valid
    rw [if_neg valid]
    simp only [Returns.bind_iff, record, Returns.modify_iff] at returned
    obtain ⟨_, _, rfl, returned⟩ := returned
    split at returned
    · rename_i unknown
      obtain ⟨same, -⟩ := Returns.pure_iff.mp returned
      rw [if_pos unknown]
      exact same.symm
    rename_i known
    rw [if_neg known]
    split at returned
    · rename_i short
      obtain ⟨same, -⟩ := Returns.pure_iff.mp returned
      rw [if_pos short]
      exact same.symm
    rename_i long
    rw [if_neg long]
    simp only [Returns.bind_iff, Returns.pure_iff, Prod.mk.injEq] at returned
    obtain ⟨rolled, _, noted, ⟨rfl, rfl⟩, -⟩ := returned
    rw [ConnInfo.noteRoller_next noted]
    rfl

/-! ### Bytes of the buffer -/

/-- A decryption writes at least what it returns. -/
theorem myDecrypt_len_le {prim : Primitives} {mode : CryptoMode} {keys : Keys} {aes : AesState}
    {input : Bytes} {len : Nat} (returned : (myDecrypt prim mode keys aes input).1.len = some len) :
    len ≤ (myDecrypt prim mode keys aes input).1.written.length := by
  have verified {data : Bytes} {len : Nat} (verified : authVerify prim mode keys data = some len) :
      len ≤ data.length := by
    unfold authVerify at verified
    dsimp only at verified
    split_ifs at verified
    obtain rfl := Option.some.inj verified
    exact Nat.sub_le _ _
  have unpadded {data : Bytes} {len : Nat} (unpadded : dePadding data 16 = some len) :
      len ≤ data.length := by
    unfold dePadding at unpadded
    split at unpadded
    · contradiction
    · split_ifs at unpadded
      obtain rfl := Option.some.inj unpadded
      exact Nat.sub_le _ _
  have cipher (key : AesBlock) (data : Bytes) {len : Nat}
      (returned : (cipherDecrypt prim mode keys aes key data).1.len = some len) :
      len ≤ (cipherDecrypt prim mode keys aes key data).1.written.length := by
    cases kind : mode.cipher <;> simp only [cipherDecrypt, kind] at returned ⊢
    case none => exact (Option.some.inj returned).ge
    case xor => simpa [cipherXor] using (Option.some.inj returned).ge
    case aes128cbc =>
      split_ifs at returned ⊢ with partial_
      exact unpadded returned
    case aes128cfb =>
      split_ifs at returned ⊢ with short
      all_goals exact (Option.some.inj returned).ge
  unfold myDecrypt at returned ⊢
  split_ifs at returned ⊢ with long hmac
  · unfold decryptAE at returned ⊢
    split at returned
    · contradiction
    · exact cipher _ _ returned
  · dsimp only at returned ⊢
    cases inner : (cipherDecrypt prim mode keys aes keys.normalKey input).1.len with
    | none =>
      rw [inner] at returned
      dsimp only at returned
      rw [inner] at returned
      contradiction
    | some plain =>
      rw [inner] at returned
      dsimp only at returned ⊢
      have taken := verified returned
      rw [List.length_take] at taken
      omega

/-- A header that a buffer may hold after these bytes were written from its start. -/
structure Completes (written header : Bytes) : Prop where
  /-- It is a whole header. -/
  length : header.length = 16
  /-- It starts with what was written. -/
  agrees : header.take written.length = written.take 16

namespace Scratch

variable {stale other : Scratch} {written header : Bytes}

/-- A written byte. -/
theorem write_getD {place : Nat} (inside : place < written.length) :
    stale.write written place = written.getD place 0 := by
  simp [write, List.getElem?_eq_getElem inside]

/-- What is written does not depend on the older bytes. -/
theorem write_inside {place : Nat} (inside : place < written.length) :
    stale.write written place = other.write written place := by
  simp [write, List.getElem?_eq_getElem inside]

/-- A range of what is written does not depend on the older bytes. -/
theorem read_inside {offset length : Nat} (inside : offset + length ≤ written.length) :
    (stale.write written).read offset length = (other.write written).read offset length := by
  refine List.map_congr_left fun place range => ?_
  have below := List.mem_range.mp range
  exact write_inside (by omega)

/-- The header in a buffer starts with what was written. -/
theorem completes_write : Completes written ((stale.write written).read 0 16) where
  length := read_length _ _ _
  agrees := by
    apply List.ext_getElem
    · simp only [List.length_take, read_length]
      omega
    · intro place left right
      simp only [List.length_take, read_length] at left
      simp [read, write, List.getElem?_eq_getElem (show place < written.length by omega)]

/-- Every such header is in some buffer. -/
theorem exists_completes (completes : Completes written header) :
    ∃ stale : Scratch, (stale.write written).read 0 16 = header := by
  refine ⟨fun place => header.getD place 0, ?_⟩
  apply List.ext_getElem
  · rw [read_length, completes.length]
  · intro place left right
    rw [read_length] at left
    by_cases covered : place < written.length
    · have agrees := congrArg (fun bytes : Bytes => bytes[place]?) completes.agrees
      simp only [List.getElem?_take, if_pos covered, if_pos left,
        List.getElem?_eq_getElem covered, List.getElem?_eq_getElem right] at agrees
      simp [read, write, List.getElem?_eq_getElem covered, Option.some.inj agrees]
    · simp [read, write, List.getElem?_eq_none (Nat.not_lt.mp covered),
        List.getElem?_eq_getElem right]

end Scratch

/-! ### When a rejection is clean -/

/-- A number that a window takes changes the window. -/
theorem AntiReplay.isVaild_moves {window : AntiReplay} {seq : UInt64}
    (valid : (window.isVaild false seq).1 = true) : (window.isVaild false seq).2 ≠ window := by
  unfold isVaild at valid ⊢
  simp only [Bool.false_eq_true, if_false] at valid ⊢
  split_ifs at valid ⊢ with same above far old seen
  · intro unmoved
    have highest := congrArg maxPacketReceived unmoved
    rw [← highest] at above
    exact Nat.lt_irrefl _ above
  · intro unmoved
    have highest := congrArg maxPacketReceived unmoved
    rw [← highest] at above
    exact Nat.lt_irrefl _ above
  · intro unmoved
    have marked := congrArg AntiReplay.window unmoved
    rw [← marked] at seen
    exact seen (by rw [get_mark, if_pos rfl])

/-- Without anti-replay every number is taken and nothing changes. -/
theorem AntiReplay.isVaild_disabled (window : AntiReplay) (seq : UInt64) :
    window.isVaild true seq = (true, window) := by
  simp [isVaild]

namespace ConnInfo

variable {conn : ConnInfo options σ τ} {blob : Blob τ} {input : Bytes}

/-- Whatever earlier packets left in the static buffer, a rejection leaves the connection as it
was, and neither the result nor the connection depends on what they left. -/
def RejectsCleanly (conn : ConnInfo options σ τ) (input : Bytes) (machine : Machine v) : Prop :=
  ∀ (stale other : Scratch) (next next' : ConnInfo options σ τ) (frame frame' : Option Frame)
    (after after' : Machine v),
    Returns (reservedParseSafer conn input) { machine with saferBuf := stale } (next, frame) after →
    Returns (reservedParseSafer conn input) { machine with saferBuf := other } (next', frame')
      after' →
    (frame = none → next = conn) ∧ next' = next ∧ frame' = frame

/-- Without anti-replay nothing is remembered. Otherwise a decrypted message has a good type and
its two bytes before the data, or no header that starts with it gets past the identifiers and the
window. -/
def Screens (conn : ConnInfo options σ τ) (blob : Blob τ) (decrypted : Decrypted) : Prop :=
  options.disableAntiReplay = true ∨ ∀ len, decrypted.len = some len →
    (18 ≤ len ∧ decrypted.written.getD 16 0 ∈ [typeHeartbeat, typeData]) ∨
    ∀ header, Completes decrypted.written header → ¬conn.Admits blob header

/-- The verdict about a long message does not depend on older bytes. -/
theorem verdict_inside {written : Bytes} {len : Nat} (stale other : Scratch) (time : Nat)
    (long : 18 ≤ len) (covered : len ≤ written.length) :
    conn.verdict blob (some len) (stale.write written) time =
      conn.verdict blob (some len) (other.write written) time := by
  have header : (stale.write written).read 0 16 = (other.write written).read 0 16 :=
    Scratch.read_inside (by omega)
  have type : stale.write written 16 = other.write written 16 := Scratch.write_inside (by omega)
  have roller : stale.write written 17 = other.write written 17 := Scratch.write_inside (by omega)
  have data : (stale.write written).read 18 (len - 18) = (other.write written).read 18 (len - 18) :=
    Scratch.read_inside (by omega)
  simp only [verdict, header, type, roller, data]

/-- Without anti-replay a rejection leaves the connection as it was. -/
theorem verdict_disabled (buffer : Scratch) (len time : Nat) (allocated : conn.blob = some blob)
    (disabled : options.disableAntiReplay = true) :
    (conn.verdict blob (some len) buffer time = (conn, none)) ∨
      18 ≤ len ∧ (conn.verdict blob (some len) buffer time).2 ≠ none := by
  by_cases admits : conn.Admits blob (buffer.read 0 16)
  · rw [verdict_admitted admits, disabled, AntiReplay.isVaild_disabled]
    have same : conn.withAntiReplay blob blob.antiReplay = conn := by
      rw [withAntiReplay, ← allocated]
    simp only [same]
    split_ifs with unknown short
    · exact .inl rfl
    · exact .inl rfl
    · exact .inr ⟨Nat.not_lt.mp short, nofun⟩
  · exact .inl (verdict_foreign admits)

/-- A screened message gets a clean verdict. -/
theorem Screens.verdict {decrypted : Decrypted} (screens : conn.Screens blob decrypted)
    (allocated : conn.blob = some blob)
    (covered : ∀ len, decrypted.len = some len → len ≤ decrypted.written.length)
    (stale other : Scratch) (time : Nat) :
    let first := conn.verdict blob decrypted.len (stale.write decrypted.written) time
    (first.2 = none → first.1 = conn) ∧
      conn.verdict blob decrypted.len (other.write decrypted.written) time = first := by
  intro first
  cases length : decrypted.len with
  | none =>
    have dropped (buffer : Scratch) : conn.verdict blob none buffer time = (conn, none) := rfl
    simp only [first, length, dropped, implies_true, and_self]
  | some len =>
    have inside := covered len length
    have same (long : 18 ≤ len) :
        conn.verdict blob (some len) (other.write decrypted.written) time = first := by
      simp only [first, length]
      exact (verdict_inside stale other time long inside).symm
    obtain disabled | screened := screens
    · have here := verdict_disabled (stale.write decrypted.written) len time allocated disabled
      have there := verdict_disabled (other.write decrypted.written) len time allocated disabled
      obtain dropped | ⟨long, accepted⟩ := here
      · have clean : first = (conn, none) := by simp only [first, length, dropped]
        refine ⟨fun _ => by rw [clean], ?_⟩
        obtain dropped' | ⟨long, -⟩ := there
        · rw [clean, dropped']
        · exact same long
      · have taken : first.2 ≠ none := by simpa only [first, length] using accepted
        exact ⟨fun rejected => absurd rejected taken, same long⟩
    · obtain ⟨long, good⟩ | foreign := screened len length
      · refine ⟨fun rejected => ?_, same long⟩
        by_contra changed
        have admits : conn.Admits blob ((stale.write decrypted.written).read 0 16) := by
          by_contra foreign
          have dropped : conn.verdict blob (some len) (stale.write decrypted.written) time =
              (conn, none) := verdict_foreign foreign
          exact changed (by simp only [first, length, dropped])
        have type : stale.write decrypted.written 16 = decrypted.written.getD 16 0 :=
          Scratch.write_getD (by omega)
        have known : ¬(stale.write decrypted.written 16 ≠ typeHeartbeat ∧
            stale.write decrypted.written 16 ≠ typeData) := by
          rw [type]
          simp only [List.mem_cons, List.not_mem_nil, or_false] at good
          tauto
        have accepted : conn.verdict blob (some len) (stale.write decrypted.written) time = _ :=
          verdict_admitted admits
        simp only [if_neg known, if_neg (Nat.not_lt.mpr long)] at accepted
        simp only [first, length, accepted] at rejected
        contradiction
      · have dropped (buffer : Scratch) :
            conn.verdict blob (some len) (buffer.write decrypted.written) time = (conn, none) :=
          verdict_foreign (foreign _ Scratch.completes_write)
        simp only [first, length, dropped, implies_true, and_self]

end ConnInfo

/-- A rejection is clean exactly for the screened messages. -/
theorem reservedParseSafer_clean_iff (conn : ConnInfo options σ τ) (blob : Blob τ) (input : Bytes)
    (machine : Machine v) (allocated : conn.blob = some blob) :
    conn.RejectsCleanly input machine ↔
      conn.Screens blob
        (myDecrypt options.prim options.crypto options.keys machine.aes input).1 := by
  have runs (stale : Scratch) : ∃ next frame after, Returns (reservedParseSafer conn input)
      { machine with saferBuf := stale } (next, frame) after := by
    obtain ⟨⟨next, frame⟩, after, ran, -⟩ :=
      reservedParseSafer_total allocated input { machine with saferBuf := stale }
    exact ⟨next, frame, after, ran⟩
  constructor
  · intro clean
    by_contra unscreened
    simp only [ConnInfo.Screens, not_or, not_forall, not_not, Bool.not_eq_true] at unscreened
    obtain ⟨enabled, len, length, unread, header, completes, admits⟩ := unscreened
    have covered := myDecrypt_len_le length
    obtain ⟨stale, rfl⟩ := Scratch.exists_completes completes
    obtain ⟨next, frame, after, ran⟩ := runs stale
    have result := reservedParseSafer_verdict allocated ran
    dsimp only at result
    generalize (myDecrypt options.prim options.crypto options.keys machine.aes input).1 = decrypted
      at *
    rw [length, ConnInfo.verdict_admitted admits] at result
    obtain ⟨kept, -⟩ := clean stale stale next next frame frame after after ran ran
    have moved := AntiReplay.isVaild_moves (enabled ▸ admits.2)
    have changed (rejected : (next, frame) = (conn.withAntiReplay blob
        (blob.antiReplay.isVaild options.disableAntiReplay
          (seqOf ((stale.write decrypted.written).read 0 16))).2, none)) : False := by
      obtain ⟨rfl, rfl⟩ := Prod.mk.inj rejected
      have same := congrArg ConnInfo.blob (kept rfl)
      rw [allocated, enabled] at same
      exact moved (congrArg Blob.antiReplay (Option.some.inj same))
    dsimp only at result
    split_ifs at result with unknown short
    · exact changed result
    · exact changed result
    · refine unread ⟨Nat.not_lt.mp short, ?_⟩
      have type : stale.write decrypted.written 16 = decrypted.written.getD 16 0 :=
        Scratch.write_getD (by omega)
      rw [← type]
      simp only [List.mem_cons, List.not_mem_nil, or_false]
      tauto
  · intro screens stale other next next' frame frame' after after' ran ran'
    have verdict := screens.verdict allocated (fun _ => myDecrypt_len_le) stale other
      machine.nextTime
    have first := reservedParseSafer_verdict allocated ran
    have second := reservedParseSafer_verdict allocated ran'
    dsimp only at first second verdict
    have time (buffer : Scratch) : ({ machine with saferBuf := buffer } : Machine v).nextTime =
        machine.nextTime := rfl
    rw [time] at first second
    rw [← first, ← second] at verdict
    obtain ⟨kept, same⟩ := verdict
    obtain ⟨rfl, rfl⟩ := Prod.mk.inj same
    exact ⟨kept, rfl, rfl⟩

/-- A message of the session with the number one, of no known type. -/
def unknownMessage : Bytes := saferMessage 3 4 1 120 0 []

/-- For that message a rejection is clean exactly when it is screened. -/
theorem reservedParseSafer_clean_unknown :
    ConnInfo.server.RejectsCleanly unknownMessage (.start .server (fun _ => .plain) 4096) ↔
      ConnInfo.server.Screens (.fresh Nat) (myDecrypt plainOptions.prim plainOptions.crypto
        plainOptions.keys .initial unknownMessage).1 :=
  reservedParseSafer_clean_iff ConnInfo.server (.fresh Nat) unknownMessage
    (.start .server (fun _ => .plain) 4096) rfl

/-- That message is rejected after the window took its number. -/
theorem reservedParseSafer_unknown_moves :
    ¬ConnInfo.server.RejectsCleanly unknownMessage (.start .server (fun _ => .plain) 4096) := by
  intro clean
  have ran : Returns (reservedParseSafer ConnInfo.server unknownMessage)
      (.start .server (fun _ => .plain) 4096) (_, none) _ := rfl
  have kept := (clean (fun _ => 0) (fun _ => 0) _ _ _ _ _ _ ran ran).1 rfl
  have window := congrArg (fun conn => conn.blob.map fun blob =>
    blob.antiReplay.maxPacketReceived) kept
  exact absurd window (by decide)

end Udp2raw
