import RpiDashboard.Telemetry.Lifecycle

/-! The registry refines the lifecycles of its entries. -/

namespace RpiDashboard.Telemetry

open Qt Protocol

theorem Call.now_nonneg (call : Call) : 0 ≤ call.now := by
  unfold Call.now Telemetry.now
  split <;> omega

@[simp] theorem Event.time_mk (operation : Operation) (call : Call) :
    (Event.mk operation call).time = call.now := rfl

namespace Device

variable (item : Device) (hello : Hello) (snapshot : DeviceSnapshot) (address : QHostAddress)
  (port : UInt16) (current utc : Int)

/-- A freshness update writes nothing but the state. -/
theorem refresh_eq :
    item.refresh current = { item with state := (item.refresh current).state } := by
  unfold refresh
  split <;> rfl

@[simp] theorem deviceId_refresh : (item.refresh current).deviceId = item.deviceId := by
  rw [refresh_eq]

@[simp] theorem instanceId_refresh : (item.refresh current).instanceId = item.instanceId := by
  rw [refresh_eq]

@[simp] theorem address_refresh : (item.refresh current).address = item.address := by
  rw [refresh_eq]

@[simp] theorem intervalSeconds_refresh :
    (item.refresh current).intervalSeconds = item.intervalSeconds := by rw [refresh_eq]

@[simp] theorem metrics_refresh : (item.refresh current).metrics = item.metrics := by
  rw [refresh_eq]

@[simp] theorem lastSequence_refresh : (item.refresh current).lastSequence = item.lastSequence := by
  rw [refresh_eq]

@[simp] theorem lastSnapshotMs_refresh :
    (item.refresh current).lastSnapshotMs = item.lastSnapshotMs := by rw [refresh_eq]

theorem competes_iff : item.competes hello address = true ↔
    item.state ≠ .offline ∧ item.instanceId ≠ hello.instanceId ∧ item.address ≠ .null ∧
      item.address ≠ address := by
  simp [competes, QHostAddress.isNull, and_assoc]

variable {item hello} in
theorem register_same (h : item.instanceId = hello.instanceId) :
    item.register hello address port = { item with
      displayName := hello.displayName
      intervalSeconds := hello.intervalSeconds
      systemInfo := hello.systemInfo
      address := address
      port := port } := if_pos h

variable {item hello} in
theorem register_other (h : item.instanceId ≠ hello.instanceId) :
    item.register hello address port =
      { Device.ofHello hello address port with
        deviceId := item.deviceId
        lastSnapshotUtc := item.lastSnapshotUtc } := if_neg h

@[simp] theorem deviceId_register : (item.register hello address port).deviceId = item.deviceId := by
  unfold register
  split <;> rfl

@[simp] theorem deviceId_apply : (item.apply snapshot current utc).deviceId = item.deviceId := rfl

end Device

theorem change_of_lifecycle {id : QUuid} {room : Bool} {e : Event} {item item' : Device}
    (h : lifecycle id room e (some item) = some item') : Change id e item item' := by
  obtain ⟨operation, call⟩ := e
  cases operation with
  | registerHello hello sender =>
    simp only [lifecycle] at h
    split at h
    · rename_i hc
      simp only [Bool.and_eq_true, decide_eq_true_eq, Bool.not_eq_true'] at hc
      cases h
      exact .registered rfl hc.1 hc.2
    · cases h
      exact .refreshed rfl
  | acceptSnapshot snapshot sender =>
    simp only [lifecycle] at h
    split at h
    · rename_i hc
      simp only [Bool.and_eq_true, decide_eq_true_eq, Bool.not_eq_true'] at hc
      cases h
      exact .applied rfl hc.1 hc.2
    · cases h
      exact .kept rfl
  | updateFreshness =>
    cases h
    exact .refreshed rfl
  | forgetDevice deviceId =>
    simp only [lifecycle] at h
    split at h
    · cases h
    · cases h
      exact .kept rfl

theorem lifecycle_none {id : QUuid} {room : Bool} {e : Event} {item : Device}
    (h : lifecycle id room e none = some item) :
    ∃ hello sender, e.operation = .registerHello hello sender ∧ hello.deviceId = id ∧
      item = .ofHello hello sender.address sender.port := by
  obtain ⟨operation, call⟩ := e
  cases operation with
  | registerHello hello sender =>
    simp only [lifecycle] at h
    split at h
    · rename_i hc
      simp only [Bool.and_eq_true, decide_eq_true_eq] at hc
      cases h
      exact ⟨hello, sender, rfl, hc.1, rfl⟩
    · cases h
  | _ => cases h

namespace RemoteDeviceRegistry

variable {qt : QtCbor} {r : RemoteDeviceRegistry}

@[simp] theorem devices_emit (signals : List Signal) : (r.emit signals).devices = r.devices := rfl

@[simp] theorem devices_persist (call : Call) : (r.persist qt call).devices = r.devices := by
  unfold persist
  split <;> rfl

theorem devices_updateFreshness (call : Call) :
    (r.updateFreshness call).devices = r.devices.map fun item => item.refresh call.now := rfl

theorem device_updateFreshness (call : Call) (id : QUuid) :
    (r.updateFreshness call).device id = (r.device id).map fun item => item.refresh call.now :=
  Keyed.find_map fun item => item.deviceId_refresh call.now

theorem deviceId_of_device {id : QUuid} {item : Device} (h : r.device id = some item) :
    item.deviceId = id := Keyed.key_of_find h

theorem device_eq_none {id : QUuid} : r.device id = none ↔ id ∉ r.ids := Keyed.find_eq_none

theorem device_of_mem (h : r.WellFormed) {item : Device} (hm : item ∈ r.devices) :
    r.device item.deviceId = some item := Keyed.find_of_mem h.nodup hm

section Replies

variable (qt) (hello : Hello) (snapshot : DeviceSnapshot) (sender : Endpoint) (call : Call)

theorem registerHello_known {item : Device} (h : r.device hello.deviceId = some item) :
    (r.registerHello qt hello sender.address sender.port call).1 =
      if (item.refresh call.now).competes hello sender.address then "duplicate_device_id" else "" := by
  simp only [registerHello, device_updateFreshness, h, Option.map_some]
  split <;> rfl

theorem registerHello_unknown (h : r.device hello.deviceId = none) :
    (r.registerHello qt hello sender.address sender.port call).1 =
      if r.hasRoom then "" else "registry_full" := by
  simp only [registerHello, device_updateFreshness, h, Option.map_none, devices_updateFreshness,
    List.length_map, hasRoom, decide_eq_true_eq]
  split <;> split <;> first | rfl | omega

/-- A rejected hello does no more than a freshness update. -/
theorem registerHello_rejected
    (h : (r.registerHello qt hello sender.address sender.port call).1 ≠ "") :
    (r.registerHello qt hello sender.address sender.port call).2 = r.updateFreshness call := by
  unfold registerHello at h ⊢
  cases hd : (r.updateFreshness call).device hello.deviceId with
  | some item =>
    simp only [hd] at h ⊢
    split at h
    · rename_i hc
      rw [if_pos hc]
    · exact absurd rfl h
  | none =>
    simp only [hd] at h ⊢
    split at h
    · rename_i hc
      rw [if_pos hc]
    · exact absurd rfl h

theorem acceptSnapshot_known {item : Device} (h : r.device snapshot.deviceId = some item) :
    (r.acceptSnapshot qt snapshot sender.address sender.port call).1 =
      !item.rejects snapshot sender.address sender.port := by
  simp only [acceptSnapshot, h]
  split <;> simp_all

theorem acceptSnapshot_unknown (h : r.device snapshot.deviceId = none) :
    (r.acceptSnapshot qt snapshot sender.address sender.port call).1 = false := by
  simp only [acceptSnapshot, h]

/-- A rejected snapshot leaves the registry as it is. -/
theorem acceptSnapshot_rejected
    (h : (r.acceptSnapshot qt snapshot sender.address sender.port call).1 = false) :
    (r.acceptSnapshot qt snapshot sender.address sender.port call).2 = r := by
  unfold acceptSnapshot at h ⊢
  cases hd : r.device snapshot.deviceId with
  | some item =>
    simp only [hd] at h ⊢
    split at h
    · rename_i hc
      rw [if_pos hc]
    · exact absurd h (by simp)
  | none => rfl

end Replies

section Devices

variable {hello : Hello} {snapshot : DeviceSnapshot} (sender : Endpoint) (call : Call) (id : QUuid)

theorem devices_registerHello_known {item : Device} (h : r.device hello.deviceId = some item)
    (hc : (item.refresh call.now).competes hello sender.address = false) :
    (r.registerHello qt hello sender.address sender.port call).2.devices =
      Keyed.modify Device.deviceId hello.deviceId (·.register hello sender.address sender.port)
        (r.updateFreshness call).devices := by
  simp only [registerHello, device_updateFreshness, h, Option.map_some, hc]
  simp

theorem devices_registerHello_unknown (h : r.device hello.deviceId = none)
    (hr : r.hasRoom = true) :
    (r.registerHello qt hello sender.address sender.port call).2.devices =
      (r.updateFreshness call).devices ++ [.ofHello hello sender.address sender.port] := by
  have hlen : ¬ r.devices.length ≥ maximumDevices := by simpa [hasRoom] using hr
  simp [registerHello, device_updateFreshness, h, devices_updateFreshness, hlen]

theorem devices_acceptSnapshot {item : Device} (h : r.device snapshot.deviceId = some item)
    (hc : item.rejects snapshot sender.address sender.port = false) :
    (r.acceptSnapshot qt snapshot sender.address sender.port call).2.devices =
      Keyed.modify Device.deviceId snapshot.deviceId (·.apply snapshot call.now call.utc)
        r.devices := by
  simp [acceptSnapshot, h, hc]

theorem devices_forgetDevice :
    (r.forgetDevice qt id call).2.devices = Keyed.erase Device.deviceId id r.devices := by
  unfold forgetDevice
  cases h : r.device id with
  | some item => simp
  | none => exact (List.eraseP_of_forall_not (by simpa [device, Keyed.find] using h)).symm

theorem device_registerHello_of_ne (h : id ≠ hello.deviceId) :
    (r.registerHello qt hello sender.address sender.port call).2.device id =
      (r.device id).map fun item => item.refresh call.now := by
  rw [← device_updateFreshness]
  by_cases hreply : (r.registerHello qt hello sender.address sender.port call).1 = ""
  · cases hd : r.device hello.deviceId with
    | some item =>
      rw [registerHello_known _ _ _ _ hd] at hreply
      have hc : (item.refresh call.now).competes hello sender.address = false := by
        simpa using hreply
      rw [device, devices_registerHello_known sender call hd hc]
      exact Keyed.find_modify_of_ne (fun item => item.deviceId_register hello _ _) h
    | none =>
      rw [registerHello_unknown _ _ _ _ hd] at hreply
      have hroom : r.hasRoom = true := by simpa using hreply
      rw [device, devices_registerHello_unknown sender call hd hroom, Keyed.find_append_singleton,
        if_neg (by exact h.symm), Option.or_none]
      rfl
  · rw [registerHello_rejected _ _ _ _ hreply]

theorem device_registerHello :
    (r.registerHello qt hello sender.address sender.port call).2.device id =
      lifecycle id r.hasRoom ⟨.registerHello hello sender, call⟩ (r.device id) := by
  by_cases hid : id = hello.deviceId
  · subst hid
    cases hd : r.device hello.deviceId with
    | some item =>
      cases hc : (item.refresh call.now).competes hello sender.address with
      | true =>
        have hreply := registerHello_known qt hello sender call hd
        rw [registerHello_rejected _ _ _ _ (by simp [hreply, hc]), device_updateFreshness, hd]
        simp [lifecycle, hc]
      | false =>
        rw [device, devices_registerHello_known sender call hd hc, Keyed.find_modify_self
          (fun item => item.deviceId_register hello _ _)]
        change ((r.updateFreshness call).device hello.deviceId).map _ = _
        rw [device_updateFreshness, hd]
        simp [lifecycle, hc]
    | none =>
      cases hroom : r.hasRoom with
      | true =>
        rw [device, devices_registerHello_unknown sender call hd hroom, Keyed.find_append_singleton]
        change ((r.updateFreshness call).device hello.deviceId).or _ = _
        rw [device_updateFreshness, hd]
        simp [lifecycle, Device.ofHello]
      | false =>
        have hreply := registerHello_unknown qt hello sender call hd
        rw [registerHello_rejected _ _ _ _ (by simp [hreply, hroom]), device_updateFreshness, hd]
        simp [lifecycle]
  · rw [device_registerHello_of_ne sender call id hid]
    cases r.device id with
    | some item => simp [lifecycle, Ne.symm hid]
    | none => simp [lifecycle, Ne.symm hid]

theorem device_acceptSnapshot :
    (r.acceptSnapshot qt snapshot sender.address sender.port call).2.device id =
      lifecycle id r.hasRoom ⟨.acceptSnapshot snapshot sender, call⟩ (r.device id) := by
  cases hd : r.device snapshot.deviceId with
  | some item =>
    cases hc : item.rejects snapshot sender.address sender.port with
    | true =>
      have hreply := acceptSnapshot_known qt snapshot sender call hd
      rw [acceptSnapshot_rejected _ _ _ _ (by simp [hreply, hc])]
      by_cases hid : id = snapshot.deviceId
      · subst hid
        simp [lifecycle, hd, hc]
      · cases r.device id <;> simp [lifecycle, Ne.symm hid]
    | false =>
      rw [device, devices_acceptSnapshot sender call hd hc]
      by_cases hid : id = snapshot.deviceId
      · subst hid
        rw [Keyed.find_modify_self fun item => item.deviceId_apply snapshot _ _]
        change (r.device snapshot.deviceId).map _ = _
        simp [lifecycle, hd, hc]
      · rw [Keyed.find_modify_of_ne (fun item => item.deviceId_apply snapshot _ _) hid]
        change r.device id = _
        cases r.device id <;> simp [lifecycle, Ne.symm hid]
  | none =>
    have hreply := acceptSnapshot_unknown qt snapshot sender call hd
    rw [acceptSnapshot_rejected _ _ _ _ hreply]
    by_cases hid : id = snapshot.deviceId
    · subst hid
      simp [lifecycle, hd]
    · cases r.device id <;> simp [lifecycle, Ne.symm hid]

theorem device_forgetDevice (hr : r.WellFormed) (deviceId : QUuid) :
    (r.forgetDevice qt deviceId call).2.device id =
      lifecycle id r.hasRoom ⟨.forgetDevice deviceId, call⟩ (r.device id) := by
  rw [device, devices_forgetDevice]
  by_cases hid : id = deviceId
  · subst hid
    rw [Keyed.find_erase_self hr.nodup]
    cases r.device id <;> simp [lifecycle]
  · rw [Keyed.find_erase_of_ne hid]
    change r.device id = _
    cases r.device id <;> simp [lifecycle, Ne.symm hid]

end Devices

/-- One step of the registry is one step of each of its entries. -/
theorem device_step (hr : r.WellFormed) (e : Event) (id : QUuid) :
    (r.step qt e).device id = lifecycle id r.hasRoom e (r.device id) := by
  obtain ⟨operation, call⟩ := e
  cases operation with
  | registerHello hello sender => exact device_registerHello sender call id
  | acceptSnapshot snapshot sender => exact device_acceptSnapshot sender call id
  | updateFreshness =>
    refine (device_updateFreshness call id).trans ?_
    cases r.device id <;> rfl
  | forgetDevice deviceId => exact device_forgetDevice call id hr deviceId

@[simp] theorem ids_updateFreshness (call : Call) : (r.updateFreshness call).ids = r.ids := by
  simp [ids, devices_updateFreshness]

theorem ids_registerHello (hello : Hello) (sender : Endpoint) (call : Call) :
    (r.registerHello qt hello sender.address sender.port call).2.ids =
      r.ids ++ Event.adds ⟨.registerHello hello sender, call⟩ r := by
  cases hd : r.device hello.deviceId with
  | some item =>
    cases hc : (item.refresh call.now).competes hello sender.address with
    | true =>
      have hreply := registerHello_known qt hello sender call hd
      rw [registerHello_rejected _ _ _ _ (by simp [hreply, hc])]
      simp [Event.adds, hd]
    | false =>
      rw [ids, devices_registerHello_known sender call hd hc,
        Keyed.map_key_modify fun item => item.deviceId_register hello _ _]
      refine (ids_updateFreshness call).trans ?_
      simp [Event.adds, hd]
  | none =>
    cases hroom : r.hasRoom with
    | true =>
      rw [ids, devices_registerHello_unknown sender call hd hroom, List.map_append]
      refine congrArg (· ++ _) (ids_updateFreshness call) |>.trans ?_
      simp [Event.adds, hd, hroom, Device.ofHello]
    | false =>
      have hreply := registerHello_unknown qt hello sender call hd
      rw [registerHello_rejected _ _ _ _ (by simp [hreply, hroom])]
      simp [Event.adds, hd, hroom]

theorem ids_acceptSnapshot (snapshot : DeviceSnapshot) (sender : Endpoint) (call : Call) :
    (r.acceptSnapshot qt snapshot sender.address sender.port call).2.ids = r.ids := by
  cases hreply : (r.acceptSnapshot qt snapshot sender.address sender.port call).1 with
  | false => rw [acceptSnapshot_rejected _ _ _ _ hreply]
  | true =>
    cases hd : r.device snapshot.deviceId with
    | some item =>
      rw [acceptSnapshot_known _ _ _ _ hd] at hreply
      rw [ids, devices_acceptSnapshot sender call hd (by simpa using hreply)]
      exact Keyed.map_key_modify fun item => item.deviceId_apply snapshot _ _
    | none =>
      rw [acceptSnapshot_unknown _ _ _ _ hd] at hreply
      cases hreply

theorem filter_keeps {e : Event} (h : ∀ id, e.operation ≠ .forgetDevice id) (l : List QUuid) :
    l.filter e.keeps = l := by
  refine List.filter_eq_self.mpr fun id _ => ?_
  unfold Event.keeps
  split
  · rename_i heq
    exact absurd heq (h _)
  · rfl

/-- Entries keep their order, and a new one goes to the end. -/
theorem ids_step (qt : QtCbor) (hr : r.WellFormed) (e : Event) :
    (r.step qt e).ids = r.ids.filter e.keeps ++ e.adds r := by
  obtain ⟨operation, call⟩ := e
  cases operation with
  | registerHello hello sender =>
    rw [filter_keeps (by simp)]
    exact ids_registerHello hello sender call
  | acceptSnapshot snapshot sender =>
    rw [filter_keeps (by simp)]
    exact (ids_acceptSnapshot snapshot sender call).trans (List.append_nil _).symm
  | updateFreshness =>
    rw [filter_keeps (by simp)]
    exact (ids_updateFreshness call).trans (List.append_nil _).symm
  | forgetDevice deviceId =>
    change (r.forgetDevice qt deviceId call).2.devices.map _ = _
    rw [devices_forgetDevice, Keyed.map_key_erase]
    refine (hr.nodup.erase_eq_filter deviceId).trans ?_
    rw [Event.adds, List.append_nil]
    refine List.filter_congr fun id _ => ?_
    rw [Bool.eq_iff_iff]
    simpa [Event.keeps] using ne_comm

theorem mem_adds {e : Event} {id : QUuid} (h : id ∈ e.adds r) :
    id ∉ r.ids ∧ r.hasRoom = true ∧ e.adds r = [id] ∧
      ∃ hello sender, e.operation = .registerHello hello sender ∧ hello.deviceId = id := by
  unfold Event.adds at h ⊢
  split at h
  · rename_i hello sender heq
    split at h
    · rename_i hc
      obtain ⟨hn, hroom⟩ := Bool.and_eq_true_iff.mp hc
      obtain rfl := List.mem_singleton.mp h
      rw [Option.isNone_iff_eq_none, device_eq_none] at hn
      exact ⟨hn, hroom, if_pos hc, hello, sender, heq, rfl⟩
    · cases h
  · cases h

theorem WellFormed.step (hr : r.WellFormed) (e : Event) : (r.step qt e).WellFormed := by
  have hids := ids_step qt hr e
  have hlen : (r.step qt e).devices.length = (r.step qt e).ids.length := (List.length_map _).symm
  have hkept : (r.ids.filter e.keeps).length ≤ r.devices.length :=
    (List.length_filter_le _ _).trans (List.length_map _).le
  cases hadds : e.adds r with
  | nil =>
    rw [hadds, List.append_nil] at hids
    refine ⟨?_, hids ▸ hr.nodup.filter _⟩
    rw [hlen, hids]
    exact hkept.trans hr.length_le
  | cons id rest =>
    obtain ⟨hnew, hroom, heq, -⟩ := mem_adds (hadds ▸ List.mem_cons_self)
    rw [heq] at hids
    constructor
    · have : r.devices.length < maximumDevices := by simpa [hasRoom] using hroom
      rw [hlen, hids, List.length_append, List.length_singleton]
      omega
    · rw [hids]
      refine (hr.nodup.filter _).append (List.nodup_singleton id) ?_
      rw [List.disjoint_singleton]
      exact fun h => hnew (List.mem_of_mem_filter h)

theorem WellFormed.of_run (hr : r.WellFormed) (es : List Event) :
    (run (RemoteDeviceRegistry.step qt) r es).WellFormed :=
  run_invariant hr fun _ e _ h => h.step e

end RemoteDeviceRegistry

end RpiDashboard.Telemetry
