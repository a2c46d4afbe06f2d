import Udp2raw.Connection.Effects

/-!
# Why a receive may stop

The functions that take the buffered packet stop the process only where the parser lets a packet
through without a payload.
-/
namespace Udp2raw

open Proc

variable {v : IpVersion} {σ τ : Type} [DecidableEq τ] {options : Options v} {m : Machine v}
  {reason : Fault → Prop}

/-- The parser lets the buffered packet through without a payload. -/
def Unparsed (options : Options v) (machine : Machine v) : Prop :=
  ∃ raw, (recvRaw0 options.raw machine.filterPort machine.packetBuf raw).2 = .untouched

/-- A check that holds. -/
theorem stops_check {condition : Bool} {text : String} {machine : Machine v}
    (holds : condition = true) : Stops (check condition text) machine reason :=
  .of_succeeds (check_succeeds text holds)

/-- A discarded packet. -/
theorem discardRawPacket_stops (full : m.packetBufCnt = 1) :
    Stops discardRawPacket m reason := by
  refine .bind (.of_total total_get) fun machine state ran => ?_
  obtain ⟨rfl, rfl⟩ := Returns.get_iff.mp ran
  refine .bind (stops_check (decide_eq_true full)) fun _ _ _ => ?_
  exact .of_total (total_modify _)

/-- A parsed packet. -/
theorem recvRawPayload_stops {raw : RawInfo options.raw} (full : m.packetBufCnt = 1)
    (because : Unparsed options m → reason (.undefined "data")) :
    Stops (recvRawPayload options raw) m reason := by
  refine .bind (.of_total total_get) fun machine state ran => ?_
  obtain ⟨rfl, rfl⟩ := Returns.get_iff.mp ran
  refine .bind (stops_check (decide_eq_true full)) fun _ _ _ => ?_
  refine .bind (.of_total (total_modify _)) fun _ _ _ => ?_
  cases result : recvRaw0 options.raw m.filterPort m.packetBuf raw with
  | mk parsed received =>
    cases received with
    | failed => exact .pure _
    | untouched => exact .throw (because ⟨raw, by rw [result]⟩)
    | payload segment => exact .pure _

/-- A bare message. -/
theorem recvBare_stops {raw : RawInfo options.raw} (full : m.packetBufCnt = 1)
    (because : Unparsed options m → reason (.undefined "data")) :
    Stops (recvBare options raw) m reason := by
  refine .bind (recvRawPayload_stops full because) fun parsed state _ => ?_
  obtain ⟨raw, payload⟩ := parsed
  cases payload with
  | none => exact .pure _
  | some payload =>
    refine .ite (fun _ => .pure _) fun _ => .ite (fun _ => .pure _) fun _ => ?_
    exact .bind (.of_total (reservedParseBare_total payload)) fun _ _ _ => .pure _

/-- The messages of a packet. -/
theorem recvSaferMulti_stops {conn : ConnInfo options σ τ} (full : m.packetBufCnt = 1)
    (allocated : conn.blob.isSome) (because : Unparsed options m → reason (.undefined "data")) :
    Stops (recvSaferMulti conn) m reason := by
  refine .bind (recvRawPayload_stops full because) fun parsed state _ => ?_
  obtain ⟨raw, payload⟩ := parsed
  cases payload with
  | none => exact .pure _
  | some payload =>
    have still : ({ conn with rawInfo := raw } : ConnInfo options σ τ).blob.isSome := allocated
    obtain ⟨blob, had⟩ := Option.isSome_iff_exists.mp still
    refine .ite (fun _ => ?_) fun _ => .of_total (recvFrames_total still payload)
    exact .bind (.of_total (reservedParseSafer_total had payload)) fun _ _ _ => .pure _

end Udp2raw
