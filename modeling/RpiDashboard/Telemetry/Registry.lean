import RpiDashboard.Telemetry.Storage

/-! The invariants of the registry, stated on one entry at a time. -/

namespace RpiDashboard.Telemetry

open Qt Protocol

/-- The hello or snapshot of an event came out of the decoder. -/
def Event.Decoded (qt : QtCbor) (e : Event) : Prop :=
  match e.operation with
  | .registerHello hello _ => ∃ bytes, (decodeMessage qt bytes).message = some (.hello hello)
  | .acceptSnapshot snapshot _ =>
    ∃ bytes, (decodeMessage qt bytes).message = some (.snapshot snapshot)
  | _ => True

/-- The hello or snapshot of an event keeps the limits of the wire format. -/
def Event.Valid (e : Event) : Prop :=
  match e.operation with
  | .registerHello hello _ => hello.Valid
  | .acceptSnapshot snapshot _ => snapshot.Valid
  | _ => True

/-- A property that loaded and new entries have and that no event of the kind `ok`
takes from an entry. -/
structure Device.Invariant (ok : Event → Prop) (P : Device → Prop) : Prop where
  loaded : ∀ item : Device, item.Storable → P item.stored
  added : ∀ hello sender call, ok ⟨.registerHello hello sender, call⟩ →
    P (.ofHello hello sender.address sender.port)
  refreshed : ∀ item current, P item → P (item.refresh current)
  registered : ∀ item hello sender call, ok ⟨.registerHello hello sender, call⟩ → P item →
    P (item.register hello sender.address sender.port)
  applied : ∀ item snapshot sender call, ok ⟨.acceptSnapshot snapshot sender, call⟩ →
    item.rejects snapshot sender.address sender.port = false → P item →
      P (item.apply snapshot call.now call.utc)

/-- The state of an entry agrees with its last snapshot. -/
structure Device.Aged (item : Device) : Prop where
  fresh : item.state = .online ∨ item.state = .stale → 0 ≤ item.lastSnapshotMs
  unsampled : item.state = .registered → item.lastSnapshotMs < 0

/-- All the fields of an entry agree with each other. -/
structure Device.Consistent (item : Device) : Prop extends item.Aged where
  deviceId : item.deviceId ≠ .null
  sampled : 0 ≤ item.lastSnapshotMs ↔ item.lastSequence.isSome
  metrics : item.metrics.isSome → item.lastSequence.isSome
  registered : item.state = .registered → item.instanceId ≠ .null ∧ item.metrics = none
  unregistered : item.state = .offline → item.lastSnapshotMs < 0 →
    item.instanceId = .null ∧ item.address = .null

/-- An entry that is active, or that a freshness update can make active, has an address. -/
def Device.Located (item : Device) : Prop :=
  item.state ≠ .offline ∨ 0 ≤ item.lastSnapshotMs → item.address ≠ .null

/-- The survivors of a run, in order. -/
def RemoteDeviceRegistry.survivors (r : RemoteDeviceRegistry) (es : List Event) : List QUuid :=
  r.ids.filter fun id => es.all fun e => e.keeps id

end RpiDashboard.Telemetry
