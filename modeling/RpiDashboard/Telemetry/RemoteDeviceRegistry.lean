import RpiDashboard.Data.Keyed
import RpiDashboard.Data.Run
import RpiDashboard.Protocol.DeviceSnapshot
import RpiDashboard.Qt.Network

/-! The dashboard's registry of remote devices (`telemetry/remote_device_registry.cpp`).
The storage file and the signals sent so far are part of the state. -/

namespace RpiDashboard.Telemetry

open Qt Protocol

def maximumDevices : Nat := 64

inductive State
  | registered : State
  | online : State
  | stale : State
  | offline : State
  deriving DecidableEq

structure Device where
  deviceId : QUuid
  displayName : QString
  intervalSeconds : Int := 1
  systemInfo : SystemInfo
  metrics : Option SystemMetrics := none
  state : State := .offline
  instanceId : QUuid := .null
  address : QHostAddress := .null
  port : UInt16 := 0
  lastSequence : Option UInt64 := none
  lastSnapshotMs : Int := -1
  lastSnapshotUtc : Option Int := none
  deriving DecidableEq

inductive Signal
  | deviceChanged : QUuid → Signal
  | deviceAboutToBeAdded : Nat → Signal
  | deviceAdded : Signal
  | deviceAboutToBeRemoved : Nat → Signal
  | deviceRemoved : Signal
  | devicesChanged : Signal
  | diagnosticChanged : Signal
  deriving DecidableEq

inductive StorageFile
  | missing : StorageFile
  | unreadable : StorageFile
  | content : QByteArray → StorageFile
  deriving DecidableEq

structure RemoteDeviceRegistry where
  storage : StorageFile
  devices : List Device := []
  diagnostic : QString := ""
  signals : List Signal := []
  deriving DecidableEq

/-- The time argument of a call, and what the platform answers during it: the
registry's clock, the wall clock, and whether `QSaveFile` commits. -/
structure Call where
  nowMs : Int := -1
  elapsed : Nat := 0
  utc : Int := 0
  saved : Bool := true
  deriving DecidableEq

def now (supplied : Int) (elapsed : Nat) : Int := if supplied ≥ 0 then supplied else elapsed

def Call.now (call : Call) : Int := Telemetry.now call.nowMs call.elapsed

namespace Device

def freshness (item : Device) (current : Int) : State :=
  let age := current - item.lastSnapshotMs
  if age ≥ item.intervalSeconds * 10000 then .offline
  else if age ≥ item.intervalSeconds * 3000 then .stale
  else .online

def refresh (item : Device) (current : Int) : Device :=
  if item.lastSnapshotMs < 0 then item else { item with state := item.freshness current }

/-- The collision guard: another instance at another address while the device is active. -/
def competes (item : Device) (hello : Hello) (address : QHostAddress) : Bool :=
  item.state ≠ .offline && item.instanceId ≠ hello.instanceId && !item.address.isNull &&
    item.address ≠ address

def register (item : Device) (hello : Hello) (address : QHostAddress) (port : UInt16) : Device :=
  let item' := { item with
    displayName := hello.displayName
    intervalSeconds := hello.intervalSeconds
    systemInfo := hello.systemInfo
    address := address
    port := port }
  if item.instanceId = hello.instanceId then item'
  else { item' with
    instanceId := hello.instanceId
    lastSequence := none
    metrics := none
    state := .registered
    lastSnapshotMs := -1 }

def ofHello (hello : Hello) (address : QHostAddress) (port : UInt16) : Device where
  deviceId := hello.deviceId
  instanceId := hello.instanceId
  displayName := hello.displayName
  intervalSeconds := hello.intervalSeconds
  systemInfo := hello.systemInfo
  state := .registered
  address := address
  port := port

def rejects (item : Device) (snapshot : DeviceSnapshot) (address : QHostAddress) (port : UInt16) :
    Bool :=
  item.instanceId ≠ snapshot.instanceId || item.address ≠ address || item.port ≠ port ||
    item.intervalSeconds ≠ snapshot.intervalSeconds ||
    item.lastSequence.any (snapshot.sequence ≤ ·)

def apply (item : Device) (snapshot : DeviceSnapshot) (current utc : Int) : Device :=
  { item with
    lastSequence := some snapshot.sequence
    systemInfo := snapshot.systemInfo
    metrics := snapshot.metrics
    lastSnapshotMs := current
    lastSnapshotUtc := some utc
    state := .online }

def toMap (qt : QtCbor) (item : Device) : QCborMap :=
  [(.string "device_id", .byteArray item.deviceId.toRfc4122),
    (.string "display_name", .string item.displayName),
    (.string "interval_s", .integer (Int64.ofInt item.intervalSeconds)),
    (.string "system_info", .byteArray (encodeSystemInfo qt item.systemInfo))]

end Device

namespace RemoteDeviceRegistry

variable (qt : QtCbor)

def device (r : RemoteDeviceRegistry) (deviceId : QUuid) : Option Device :=
  Keyed.find Device.deviceId deviceId r.devices

def emit (r : RemoteDeviceRegistry) (signals : List Signal) : RemoteDeviceRegistry :=
  { r with signals := r.signals ++ signals }

def toValue (devices : List Device) : QCborValue :=
  .map [(.string "devices", .array (devices.map fun item => .map (item.toMap qt))),
    (.string "version", .integer 1)]

def persist (r : RemoteDeviceRegistry) (call : Call) : RemoteDeviceRegistry :=
  if call.saved then { r with storage := .content (qt.toCbor (toValue qt r.devices)) }
  else { r with diagnostic := "Unable to persist remote device registry" }.emit [.diagnosticChanged]

def readEntry (seen : List QUuid) (value : QCborValue) : Option Device :=
  match value with
  | .map entry =>
    match QCborMap.value entry "device_id", QCborMap.value entry "display_name",
      QCborMap.value entry "interval_s", QCborMap.value entry "system_info" with
    | .byteArray idBytes, .string name, .integer interval, .byteArray infoBytes =>
      if idBytes.length ≠ 16 || name = "" || (toUtf8 name).length > 128 || interval < 1 ||
          interval > 5 then none
      else
        let id := QUuid.fromRfc4122 idBytes
        match decodeSystemInfo qt infoBytes with
        | some info =>
          if id.isNull || seen.contains id then none
          else some {
            deviceId := id
            displayName := name
            intervalSeconds := interval.toInt
            systemInfo := info }
        | none => none
    | _, _, _, _ => none
  | _ => none

/-- The loop of `load`; `seen` are the identifiers read so far. -/
def readEntries : List QUuid → List QCborValue → Option (List Device)
  | _, [] => some []
  | seen, value :: values => do
    let item ← readEntry qt seen value
    return item :: (← readEntries (item.deviceId :: seen) values)

def readDevices (bytes : QByteArray) : Option (List Device) :=
  match qt.fromCbor bytes with
  | some (.map root) =>
    match QCborMap.value root "version", QCborMap.value root "devices" with
    | .integer version, .array raw =>
      if version ≠ 1 || raw.length > maximumDevices then none else readEntries qt [] raw
    | _, _ => none
  | _ => none

def load (r : RemoteDeviceRegistry) : RemoteDeviceRegistry :=
  match r.storage with
  | .missing => r
  | .unreadable =>
    { r with diagnostic := "Unable to read remote device registry" }.emit [.diagnosticChanged]
  | .content bytes =>
    match readDevices qt bytes with
    | some devices => { r with devices := r.devices ++ devices }
    | none =>
      { r with devices := [], diagnostic := "Remote device registry is corrupt" }.emit
        [.diagnosticChanged]

/-- The constructor. -/
def create (storage : StorageFile) : RemoteDeviceRegistry := load qt { storage := storage }

def updateFreshness (r : RemoteDeviceRegistry) (call : Call) : RemoteDeviceRegistry :=
  let changed := r.devices.filter fun item => (item.refresh call.now).state ≠ item.state
  let devices := r.devices.map fun item => item.refresh call.now
  let signals := changed.map fun item => .deviceChanged item.deviceId
  { r with devices := devices }.emit signals

/-- The reason of a rejection, empty if the hello is accepted. -/
def registerHello (r : RemoteDeviceRegistry) (hello : Hello) (address : QHostAddress)
    (port : UInt16) (call : Call) : QString × RemoteDeviceRegistry :=
  let r := r.updateFreshness call
  match r.device hello.deviceId with
  | some item =>
    if item.competes hello address then ("duplicate_device_id", r)
    else
      let devices := Keyed.modify Device.deviceId hello.deviceId (·.register hello address port)
        r.devices
      ("", ({ r with devices := devices }.persist qt call).emit [.deviceChanged item.deviceId])
  | none =>
    if r.devices.length ≥ maximumDevices then ("registry_full", r)
    else
      let r := r.emit [.deviceAboutToBeAdded r.devices.length]
      let devices := r.devices ++ [Device.ofHello hello address port]
      ("", ({ r with devices := devices }.persist qt call).emit [.deviceAdded, .devicesChanged])

def acceptSnapshot (r : RemoteDeviceRegistry) (snapshot : DeviceSnapshot) (address : QHostAddress)
    (port : UInt16) (call : Call) : Bool × RemoteDeviceRegistry :=
  match r.device snapshot.deviceId with
  | some item =>
    if item.rejects snapshot address port then (false, r)
    else
      let devices := Keyed.modify Device.deviceId snapshot.deviceId
        (·.apply snapshot call.now call.utc) r.devices
      (true, ({ r with devices := devices }.persist qt call).emit [.deviceChanged item.deviceId])
  | none => (false, r)

def forgetDevice (r : RemoteDeviceRegistry) (deviceId : QUuid) (call : Call) :
    Bool × RemoteDeviceRegistry :=
  match r.device deviceId with
  | some _ =>
    let index := r.devices.findIdx fun item => item.deviceId = deviceId
    let r := r.emit [.deviceAboutToBeRemoved index]
    let devices := Keyed.erase Device.deviceId deviceId r.devices
    (true, ({ r with devices := devices }.persist qt call).emit [.deviceRemoved, .devicesChanged])
  | none => (false, r)

end RemoteDeviceRegistry

inductive Operation
  | registerHello : Hello → Endpoint → Operation
  | acceptSnapshot : DeviceSnapshot → Endpoint → Operation
  | updateFreshness : Operation
  | forgetDevice : QUuid → Operation

structure Event where
  operation : Operation
  call : Call

def Event.time (e : Event) : Int := e.call.now

def RemoteDeviceRegistry.step (qt : QtCbor) (r : RemoteDeviceRegistry) (e : Event) :
    RemoteDeviceRegistry :=
  match e.operation with
  | .registerHello hello sender =>
    (r.registerHello qt hello sender.address sender.port e.call).2
  | .acceptSnapshot snapshot sender =>
    (r.acceptSnapshot qt snapshot sender.address sender.port e.call).2
  | .updateFreshness => r.updateFreshness e.call
  | .forgetDevice deviceId => (r.forgetDevice qt deviceId e.call).2

/-- The registry after a start on a storage file and the given events. -/
abbrev RemoteDeviceRegistry.after (qt : QtCbor) (storage : StorageFile) (events : List Event) :
    RemoteDeviceRegistry :=
  run (step qt) (create qt storage) events

end RpiDashboard.Telemetry
