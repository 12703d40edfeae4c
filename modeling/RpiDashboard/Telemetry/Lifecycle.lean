import RpiDashboard.Telemetry.RemoteDeviceRegistry

/-! The life of a single entry.  The registry is a family of these machines, one
for every identifier, that share the file and the room for new entries. -/

namespace RpiDashboard.Telemetry

open Qt Protocol

/-- What an event makes of the entry of device `id`. -/
def lifecycle (id : QUuid) (room : Bool) (e : Event) : Option Device → Option Device
  | none =>
    match e.operation with
    | .registerHello hello sender =>
      if hello.deviceId = id && room then some (.ofHello hello sender.address sender.port) else none
    | _ => none
  | some item =>
    match e.operation with
    | .registerHello hello sender =>
      let item := item.refresh e.time
      if hello.deviceId = id && !item.competes hello sender.address then
        some (item.register hello sender.address sender.port)
      else some item
    | .acceptSnapshot snapshot sender =>
      if snapshot.deviceId = id && !item.rejects snapshot sender.address sender.port then
        some (item.apply snapshot e.time e.call.utc)
      else some item
    | .updateFreshness => some (item.refresh e.time)
    | .forgetDevice deviceId => if deviceId = id then none else some item

/-- Whether an event brings the freshness of every entry up to date. -/
def Event.refreshes (e : Event) : Bool :=
  match e.operation with
  | .registerHello _ _ => true
  | .updateFreshness => true
  | _ => false

/-- What an event can do to an entry that stays. -/
inductive Change (id : QUuid) (e : Event) (item : Device) : Device → Prop
  | kept : e.refreshes = false → Change id e item item
  | refreshed : e.refreshes = true → Change id e item (item.refresh e.time)
  | registered {hello : Hello} {sender : Endpoint} :
      e.operation = .registerHello hello sender → hello.deviceId = id →
      (item.refresh e.time).competes hello sender.address = false →
      Change id e item ((item.refresh e.time).register hello sender.address sender.port)
  | applied {snapshot : DeviceSnapshot} {sender : Endpoint} :
      e.operation = .acceptSnapshot snapshot sender → snapshot.deviceId = id →
      item.rejects snapshot sender.address sender.port = false →
      Change id e item (item.apply snapshot e.time e.call.utc)

namespace RemoteDeviceRegistry

def ids (r : RemoteDeviceRegistry) : List QUuid := r.devices.map Device.deviceId

def hasRoom (r : RemoteDeviceRegistry) : Bool := r.devices.length < maximumDevices

structure WellFormed (r : RemoteDeviceRegistry) : Prop where
  length_le : r.devices.length ≤ maximumDevices
  nodup : r.ids.Nodup

end RemoteDeviceRegistry

/-- The identifier an event adds to a registry, if it adds one. -/
def Event.adds (e : Event) (r : RemoteDeviceRegistry) : List QUuid :=
  match e.operation with
  | .registerHello hello _ =>
    if (r.device hello.deviceId).isNone && r.hasRoom then [hello.deviceId] else []
  | _ => []

/-- Whether an event keeps an identifier that is in the registry. -/
def Event.keeps (e : Event) (id : QUuid) : Bool :=
  match e.operation with
  | .forgetDevice deviceId => deviceId ≠ id
  | _ => true

/-- The snapshot an event carries for device `id`, if the registry accepts it. -/
def Event.accepted (qt : QtCbor) (id : QUuid) (r : RemoteDeviceRegistry) (e : Event) :
    Option DeviceSnapshot :=
  match e.operation with
  | .acceptSnapshot snapshot sender =>
    if snapshot.deviceId = id &&
        (r.acceptSnapshot qt snapshot sender.address sender.port e.call).1 then some snapshot
    else none
  | _ => none

end RpiDashboard.Telemetry
