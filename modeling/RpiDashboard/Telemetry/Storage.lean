import RpiDashboard.Protocol.Limits
import RpiDashboard.Telemetry.Lifecycle

/-! What the storage file says, apart from how it is written and read. -/

namespace RpiDashboard.Telemetry

open Qt Protocol

/-- What is left of a device after a restart: the session is at its defaults. -/
def Device.stored (item : Device) : Device where
  deviceId := item.deviceId
  displayName := item.displayName
  intervalSeconds := item.intervalSeconds
  systemInfo := item.systemInfo

structure Device.Storable (item : Device) : Prop where
  deviceId : item.deviceId ≠ .null
  displayName : TextWithin 128 item.displayName
  interval : IntervalWithin item.intervalSeconds
  systemInfo : item.systemInfo.Valid

/-- The device that an entry of the file stands for. -/
structure Device.StoredAs (qt : QtCbor) (item : Device) (entry : QCborMap) : Prop where
  deviceId : entry.value "device_id" = .byteArray item.deviceId.toRfc4122
  displayName : entry.value "display_name" = .string item.displayName
  interval : ∃ i : Int64, entry.value "interval_s" = .integer i ∧ i.toInt = item.intervalSeconds
  systemInfo : ∃ bytes, entry.value "system_info" = .byteArray bytes ∧
    decodeSystemInfo qt bytes = some item.systemInfo

/-- The same for a value of the list: a map that stands for a device that may be stored. -/
def Device.ReadFrom (qt : QtCbor) (item : Device) (value : QCborValue) : Prop :=
  item.Storable ∧ ∃ entry, value = .map entry ∧ item.StoredAs qt entry

/-- A file with a list of valid entries, without a device named twice. -/
structure StorageFile.Lists (qt : QtCbor) (bytes : QByteArray) (items : List Device) : Prop where
  nodup : (items.map Device.deviceId).Nodup
  length_le : items.length ≤ maximumDevices
  entries : ∃ root raw, qt.fromCbor bytes = some (.map root) ∧
    QCborMap.value root "version" = .integer 1 ∧ QCborMap.value root "devices" = .array raw ∧
      List.Forall₂ (Device.ReadFrom qt) items raw

end RpiDashboard.Telemetry
