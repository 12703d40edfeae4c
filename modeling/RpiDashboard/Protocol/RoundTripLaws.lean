import RpiDashboard.Protocol.EncoderLaws
import RpiDashboard.Protocol.WireFormatLaws
import RpiDashboard.Qt.Reference

/-! The codec's round trips, over any CBOR library that meets RFC 8949. -/

namespace RpiDashboard.Protocol

open Qt Codec

variable {qt : QtCbor}

theorem length_encodeMessage (h : qt.Rfc8949) (message : TelemetryMessage) :
    (encodeMessage qt message).length = (QCborValue.map (messageToMap message)).encodedSize := by
  obtain ⟨sort, -, hqt⟩ := h.fromCbor_toCbor
  exact (hqt (.map (messageToMap message)) (messageToMap_plain 9 message)).1.length_eq

theorem decodeMessage_of_fromCbor {bytes : QByteArray} {root : QCborMap}
    (hne : bytes ≠ []) (hs : bytes.length ≤ maximumDatagramSize)
    (h : qt.fromCbor bytes = some (.map root)) : decodeMessage qt bytes = decodeRoot root := by
  have hsize : (bytes.isEmpty || bytes.length > maximumDatagramSize) = false := by
    simp [hne, hs]
  simp [decodeMessage, hsize, h]

theorem decodeMessage_encodeMessage (h : qt.Rfc8949) {message : TelemetryMessage}
    (hv : message.Valid) (hs : (encodeMessage qt message).length ≤ maximumDatagramSize) :
    decodeMessage qt (encodeMessage qt message) = ⟨some message, ""⟩ := by
  have hlen := length_encodeMessage h message
  obtain ⟨sort, hsort, hqt⟩ := h.fromCbor_toCbor
  have hread := (hqt (.map (messageToMap message)) (messageToMap_plain 9 message)).2 (by
    rw [← hlen]
    exact lt_of_le_of_lt hs (by decide))
  rw [QCborValue.arrange_map] at hread
  have hne : encodeMessage qt message ≠ [] := by
    refine List.ne_nil_of_length_pos ?_
    rw [hlen]
    exact QCborValue.encodedSize_pos _
  rw [decodeMessage_of_fromCbor hne hs hread]
  exact decodeRoot_of_carriedBy (messageToMap_carries hsort hv) hv

theorem encodeMessage_fits (h : qt.Rfc8949) {message : TelemetryMessage} (hv : message.Valid)
    (hm : ∀ snapshot, message ≠ .snapshot snapshot) :
    (encodeMessage qt message).length ≤ maximumDatagramSize := by
  rw [length_encodeMessage h]
  cases message with
  | hello value => exact encodedSize_hello_le hv
  | registrationResult value => exact encodedSize_registrationResult_le hv
  | snapshot value => exact absurd rfl (hm value)

/-- Every valid message that fits a datagram is decoded to itself; registrations
and their results always fit. -/
theorem wire_round_trip (h : qt.Rfc8949) (message : TelemetryMessage) (hv : message.Valid) :
    ((encodeMessage qt message).length ≤ maximumDatagramSize →
      decodeMessage qt (encodeMessage qt message) = ⟨some message, ""⟩) ∧
    ((∀ snapshot, message ≠ .snapshot snapshot) →
      (encodeMessage qt message).length ≤ maximumDatagramSize ∧
        decodeMessage qt (encodeMessage qt message) = ⟨some message, ""⟩) :=
  ⟨decodeMessage_encodeMessage h hv, fun hm =>
    have hs := encodeMessage_fits h hv hm
    ⟨hs, decodeMessage_encodeMessage h hv hs⟩⟩

def sampleDevice : QUuid := ⟨List.replicate 16 0x11, rfl⟩
def sampleInstance : QUuid := ⟨List.replicate 16 0x22, rfl⟩

def sampleHello : Hello where
  deviceId := sampleDevice
  instanceId := sampleInstance
  displayName := "Pi"
  systemInfo := { host.hostName := some "pi", hardware.compatibleIds := some [] }

def sampleSnapshot : DeviceSnapshot where
  deviceId := sampleDevice
  instanceId := sampleInstance
  sequence := 7
  systemInfo := sampleHello.systemInfo
  metrics := some {
    cpu.usageRatio := some .one
    memory := { totalBytes := some 4096, availableBytes := some 1024 }
    networkInterfaces := [{ name := "eth0", rxBytes := some 300 }] }

theorem wire_round_trip_sample :
    decodeMessage .reference (encodeMessage .reference (.hello sampleHello)) =
        ⟨some (.hello sampleHello), ""⟩ ∧
      decodeMessage .reference (encodeMessage .reference (.snapshot sampleSnapshot)) =
        ⟨some (.snapshot sampleSnapshot), ""⟩ := by
  constructor
  · exact ((wire_round_trip QtCbor.reference_rfc8949 _ (by decide +kernel)).2 (by simp)).2
  · exact (wire_round_trip QtCbor.reference_rfc8949 _ (by decide +kernel)).1 (by decide +kernel)

theorem length_encodeSystemInfo_le (h : qt.Rfc8949) {info : SystemInfo} (hv : info.Valid) :
    (encodeSystemInfo qt info).length ≤ 12243 := by
  obtain ⟨sort, -, hqt⟩ := h.fromCbor_toCbor
  rw [encodeSystemInfo, (hqt (.map (infoToMap info)) (infoToMap_plain 11 info)).1.length_eq]
  exact (infoToMap_bounded hv).encodedSize_le (by omega)

theorem decodeSystemInfo_encodeSystemInfo (h : qt.Rfc8949) {info : SystemInfo} (hv : info.Valid) :
    decodeSystemInfo qt (encodeSystemInfo qt info) = some info := by
  have hsize := (infoToMap_bounded hv).encodedSize_le (by omega)
  obtain ⟨sort, hsort, hqt⟩ := h.fromCbor_toCbor
  have hread := (hqt (.map (infoToMap info)) (infoToMap_plain 11 info)).2 (by omega)
  rw [decodeSystemInfo, encodeSystemInfo, hread, QCborValue.arrange_map]
  exact infoFromMap_of_carriedBy (infoToMap_carries hsort hv.totalBytes) hv

end RpiDashboard.Protocol
