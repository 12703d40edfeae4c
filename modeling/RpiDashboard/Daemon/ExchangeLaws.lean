import RpiDashboard.Daemon.MessageLaws
import RpiDashboard.Protocol.ExactLaws

/-! The dashboard takes the daemon's messages exactly if they are valid and fit a datagram. -/

namespace RpiDashboard.Daemon

open Qt Protocol Codec

variable {qt : QtCbor} {c : Config} {d i : Uuid} {seq : UInt64} {info : Value} {m : Option Value}
  {message : TelemetryMessage}

theorem decodeMessage_oversized {bytes : QByteArray} (h : ¬ bytes.length ≤ maximumDatagramSize) :
    (decodeMessage qt bytes).message = none := by
  have hsize : (bytes.isEmpty || bytes.length > maximumDatagramSize) = true := by
    simp [Nat.not_le.mp h]
  simp [decodeMessage, hsize, reject]

/-- What is decoded from a tree that Qt can hold is what its root says. -/
theorem decodeMessage_cbor_eq (hqt : qt.Rfc8949) {r : StdMap} (hfits : (Value.map r).Fits 16)
    (hs : (cbor (.map r)).length ≤ maximumDatagramSize) :
    decodeMessage qt (cbor (.map r)) = decodeRoot (toQtMap r) := by
  have hread : qt.fromCbor (cbor (.map r)) = some (.map (toQtMap r)) := by
    rw [fromCbor_cbor hqt hfits (lt_of_le_of_lt hs (by decide)), toQt_map]
  refine decodeMessage_of_fromCbor (List.ne_nil_of_length_pos ?_) hs hread
  rw [← encodedSize_toQt hfits]
  exact QCborValue.encodedSize_pos _

theorem message_hello_iff (hqt : qt.Rfc8949) (hinfo : IsSystemInfo info) {name : QString}
    (hname : c.displayName = toUtf8 name) (hinterval : IntervalWithin c.intervalSeconds) :
    (decodeMessage qt (hello c d i info)).message = some message ↔
      message = .hello (helloOf c d i info) ∧ (helloOf c d i info).Valid ∧
        (hello c d i info).length ≤ maximumDatagramSize := by
  constructor
  · intro h
    have hs : (hello c d i info).length ≤ maximumDatagramSize := by
      by_contra hs
      simp [decodeMessage_oversized hs] at h
    have hvalid := decodeMessage_valid h
    rw [hello_eq] at h hs
    rw [decodeMessage_cbor_eq hqt (helloEntries_fits hname hinterval hinfo) hs] at h
    obtain rfl := eq_of_hello (hello_carriedBy hinterval hinfo) hinterval h
    exact ⟨rfl, hvalid, hs⟩
  · rintro ⟨rfl, hv, hs⟩
    rw [decodeMessage_hello hqt hinfo hname hv hs]

theorem message_snapshot_iff (hqt : qt.Rfc8949) (hinfo : IsSystemInfo info)
    (hm : ∀ metrics ∈ m, IsMetrics metrics) (hinterval : IntervalWithin c.intervalSeconds)
    (hseq : InRange seq) :
    (decodeMessage qt (snapshot c d i seq info m)).message = some message ↔
      message = .snapshot (snapshotOf c d i seq info m) ∧ (snapshotOf c d i seq info m).Valid ∧
        (snapshot c d i seq info m).length ≤ maximumDatagramSize := by
  constructor
  · intro h
    have hs : (snapshot c d i seq info m).length ≤ maximumDatagramSize := by
      by_contra hs
      simp [decodeMessage_oversized hs] at h
    have hvalid := decodeMessage_valid h
    rw [snapshot_eq] at h hs
    rw [decodeMessage_cbor_eq hqt (snapshotEntries_fits hinterval hseq hinfo hm) hs] at h
    obtain rfl := eq_of_snapshot (snapshot_carriedBy hinterval hinfo hm) hinterval h
    exact ⟨rfl, hvalid, snapshot_eq ▸ hs⟩
  · rintro ⟨rfl, hv, hs⟩
    rw [decodeMessage_snapshot hqt hinfo hm hv hs]

end RpiDashboard.Daemon
