import RpiDashboard.Dashboard.DeviceModel
import RpiDashboard.Sysmetrics.CollectionLaws
import RpiDashboard.Telemetry.RegistryLaws

/-! What the model of devices announces, and when that is all that changes. -/

namespace RpiDashboard.Dashboard

open Numeric Protocol Qt Sysinfo Sysmetrics Telemetry
open RemoteDeviceRegistry (persistSignals freshnessSignals helloSignals)

variable {qt : QtText} {cbor : QtCbor}

namespace Sources

variable {sources : Sources} {devices : List Device} {device : Device} {index : Nat}

/-- A row of a device; it depends on nothing else. -/
def remoteRow (qt : QtText) (row : Nat) (device : Device) : Role → QVariant :=
  Sources.roleValue qt { info := {}, metrics := {}, devices := [] } {
    row
    remote := some device
    info := device.systemInfo
    metrics := device.metrics.getD {} }

theorem data_remote (h : sources.devices[index]? = some device) :
    sources.data qt (index + 1) = remoteRow qt (index + 1) device := by
  funext role
  simp only [data, entry, h, Option.map_some, remoteRow]
  cases role <;> rfl

theorem rows_eq : sources.rows qt = sources.data qt 0 ::
    sources.devices.mapIdx fun index device => remoteRow qt (index + 1) device := by
  rw [rows, rowCount, Nat.add_comm, List.range_succ_eq_map, List.map_cons, List.map_map]
  congr 1
  refine List.ext_getElem? fun index => ?_
  rw [List.getElem?_mapIdx, List.getElem?_map]
  cases h : sources.devices[index]? with
  | none =>
    have hlength := List.getElem?_eq_none_iff.mp h
    rw [List.getElem?_eq_none_iff.mpr (by simpa using hlength)]
    rfl
  | some device =>
    have hlt : index < sources.devices.length := (List.getElem?_eq_some_iff.mp h).1
    rw [List.getElem?_range hlt]
    exact congrArg some (data_remote h)

/-- One device is replaced. -/
theorem rows_set (sources : Sources) (index : Nat) (device : Device) :
    ({ sources with devices := sources.devices.set index device } : Sources).rows qt =
      (sources.rows qt).set (index + 1) (remoteRow qt (index + 1) device) := by
  rw [rows_eq, rows_eq, List.set_cons_succ, List.mapIdx_set]
  rfl

theorem rows_concat (sources : Sources) : ({ sources with devices := sources.devices ++ [device] } : Sources).rows qt =
    sources.rows qt ++ [remoteRow qt (sources.devices.length + 1) device] := by
  rw [rows_eq, rows_eq, List.mapIdx_concat]
  rfl

/-- Only the first row depends on the information and the metrics of this machine. -/
theorem rows_local {info : SysInfoService} {metrics : SysMetricsService} :
    ({ sources with info, metrics } : Sources).rows qt =
      (sources.rows qt).set 0 (({ sources with info, metrics } : Sources).data qt 0) := by
  rw [rows_eq, rows_eq, List.set_cons_zero]

theorem rows_zero : (sources.rows qt)[0]? = some (sources.data qt 0) := by
  rw [rows_eq]
  rfl

theorem data_info {info : SysInfoService} {role : Role} (h : role ∉ localInfoRoles) :
    ({ sources with info } : Sources).data qt 0 role = sources.data qt 0 role := by
  cases role <;> first | rfl | exact absurd (by decide) h

theorem data_metrics {metrics : SysMetricsService} {role : Role} (h : role ∉ localMetricsRoles) :
    ({ sources with metrics } : Sources).data qt 0 role = sources.data qt 0 role := by
  cases role <;> first | rfl | exact absurd (by decide) h

theorem rows_info {info : SysInfoService} (h : info.currentInfo = sources.info.currentInfo) :
    ({ sources with info } : Sources).rows qt = sources.rows qt := by
  have hdata : ({ sources with info } : Sources).data qt 0 = sources.data qt 0 := by
    funext role
    simp only [data, entry, h]
    rfl
  rw [rows_eq, rows_eq, hdata]

theorem rows_metrics {metrics : SysMetricsService}
    (h : metrics.currentMetrics = sources.metrics.currentMetrics ∧
      metrics.lastSuccessUtc = sources.metrics.lastSuccessUtc) :
    ({ sources with metrics } : Sources).rows qt = sources.rows qt := by
  have hboot : metrics.bootTimeUtc = sources.metrics.bootTimeUtc := by
    rw [SysMetricsService.bootTimeUtc, h.1, h.2, SysMetricsService.bootTimeUtc]
  have hdata : ({ sources with metrics } : Sources).data qt 0 = sources.data qt 0 := by
    funext role
    simp only [data, entry, h.1, roleValue, bootTime, hboot]
  rw [rows_eq, rows_eq, hdata]

end Sources

namespace Watched

variable {w : Watched}

section Local

/-- One row has changed, in roles that are announced. -/
theorem announce_dataChanged {sources : Sources} {row : Nat} {roles : List Role}
    {shown old : Role → QVariant} (hrows : sources.rows qt = w.view.set row shown)
    (hold : w.view[row]? = some old) (h : ∀ role, role ∉ roles → shown role = old role) :
    (w.announce qt sources [.dataChanged row roles]).view = sources.rows qt := by
  exact Rows.apply_dataChanged hrows hold h

theorem Shows.info (h : w.Shows qt) (e : Sysinfo.Event) : (w.step qt cbor (.info e)).Shows qt := by
  rw [step]
  cases hchanged : w.info.currentInfoChanged e with
  | true =>
    have hrows : ({ w.sources with info := w.info.step e } : Sources).rows qt =
        w.view.set 0 _ := (Sources.rows_local).trans (congrArg (List.set · 0 _) h.symm)
    have hold : w.view[0]? = some (w.sources.data qt 0) := h ▸ Sources.rows_zero
    exact announce_dataChanged hrows hold fun role => Sources.data_info
  | false =>
    exact h.trans (Sources.rows_info (SysInfoService.currentInfo_step hchanged)).symm

theorem Shows.metrics (h : w.Shows qt) (e : Sysmetrics.Event) :
    (w.step qt cbor (.metrics e)).Shows qt := by
  rw [step]
  cases hchanged : w.metrics.currentMetricsChanged e with
  | true =>
    have hrows : ({ w.sources with metrics := w.metrics.step e } : Sources).rows qt =
        w.view.set 0 _ := (Sources.rows_local).trans (congrArg (List.set · 0 _) h.symm)
    have hold : w.view[0]? = some (w.sources.data qt 0) := h ▸ Sources.rows_zero
    exact announce_dataChanged hrows hold fun role => Sources.data_metrics
  | false =>
    exact h.trans (Sources.rows_metrics (SysMetricsService.step_shown hchanged)).symm

end Local

section Remote

/-- It shows these devices, and the model is in this state. -/
def showing (qt : QtText) (w : Watched) (devices : List Device) (model : DeviceModel) : Watched :=
  { w with model, view := ({ w.sources with devices } : Sources).rows qt }

variable {before after : List Device} {device : Device} {index : Nat} {model : DeviceModel}

theorem findIdx?_of_nodup (h : (before.map Device.deviceId).Nodup)
    (hdevice : before[index]? = some device) :
    (before.findIdx? fun other => other.deviceId = device.deviceId) = some index := by
  obtain ⟨hlt, hget⟩ := List.getElem?_eq_some_iff.mp hdevice
  refine List.findIdx?_eq_some_iff_getElem.mpr ⟨hlt, by simp [hget], fun j hj => ?_⟩
  have hne := List.pairwise_iff_getElem.mp h j index (by simp; omega) (by simpa using hlt) hj
  simpa [hget] using hne

theorem mem_roleNames (role : Role) : role ∈ roleNames := by
  cases role <;> decide

theorem receive_deviceChanged (hnodup : ((before.set index device).map Device.deviceId).Nodup)
    (hlt : index < before.length) :
    (w.showing qt before model).receive qt (.deviceChanged device.deviceId,
        before.set index device) = w.showing qt (before.set index device) model := by
  have hfound := findIdx?_of_nodup hnodup (List.getElem?_set_self hlt)
  let sources : Sources := { w.sources with devices := before }
  have hold : (sources.rows qt)[index + 1]? =
      some (Sources.remoteRow qt (index + 1) before[index]) := by
    rw [Sources.rows_eq]
    simp [sources, List.getElem?_eq_getElem hlt]
  have hview : Rows.apply _ (sources.rows qt) (.dataChanged (index + 1) roleNames) = _ :=
    Rows.apply_dataChanged (sources.rows_set index device) hold
      fun role hrole => absurd (mem_roleNames role) hrole
  simp only [receive, DeviceModel.receive, DeviceModel.remoteChanged, hfound, announce, showing,
    List.map_cons, List.map_nil, Rows.follow, List.foldl_cons, List.foldl_nil]
  exact congrArg (fun view => { w with model, view }) hview

theorem foldl_persistSignals {call : Call} {later : List Sent} :
    (persistSignals call after ++ later).foldl (receive qt) (w.showing qt before model) =
      later.foldl (receive qt) (w.showing qt before model) := by
  unfold persistSignals
  split <;> rfl

theorem refresh_of_state {current : Int} (h : (device.refresh current).state = device.state) :
    device.refresh current = device := by
  rw [device.refresh_eq, h]

/-- The loop of `updateFreshness`: the view shows what it has passed. -/
theorem foldl_freshnessSignals {current : Int} {done rest : List Device}
    (hnodup : ((done ++ rest).map Device.deviceId).Nodup) :
    (freshnessSignals current done rest).foldl (receive qt) (w.showing qt (done ++ rest) model) =
      w.showing qt (done ++ rest.map (Device.refresh · current)) model := by
  induction rest generalizing done with
  | nil => rfl
  | cons item rest ih =>
    have hset : (done ++ item :: rest).set done.length (item.refresh current) =
        done ++ item.refresh current :: rest := by simp
    have hnext : ((done ++ [item.refresh current] ++ rest).map Device.deviceId).Nodup := by
      simpa using hnodup
    have ih := ih hnext
    simp only [List.append_assoc, List.singleton_append] at ih
    rw [freshnessSignals, List.map_cons, ← ih]
    split
    case isTrue =>
      have hreceive : (w.showing qt (done ++ item :: rest) model).receive qt
          (.deviceChanged (item.refresh current).deviceId,
            (done ++ item :: rest).set done.length (item.refresh current)) = _ :=
        receive_deviceChanged (by simpa [hset] using hnodup) (by simp)
      rw [hset, Device.deviceId_refresh] at hreceive
      rw [List.foldl_cons, hreceive]
    case isFalse hsame =>
      rw [refresh_of_state (of_not_not hsame)]

/-- A device is changed, and announced. -/
theorem foldl_changed {id : QUuid} {f : Device → Device} {call : Call}
    (hf : ∀ item, (f item).deviceId = item.deviceId)
    (hdevice : Keyed.find Device.deviceId id before = some device)
    (hnodup : (before.map Device.deviceId).Nodup)
    (hafter : after = Keyed.modify Device.deviceId id f before) :
    (persistSignals call after ++ [(Signal.deviceChanged device.deviceId, after)]).foldl (receive qt)
        (w.showing qt before model) = w.showing qt after model := by
  have hids : (after.map Device.deviceId).Nodup := by
    rwa [hafter, Keyed.map_key_modify hf]
  obtain ⟨i, hlt, heq⟩ : ∃ i < before.length, _ = before.set i (f device) :=
    Keyed.exists_modify_eq_set hdevice
  rw [foldl_persistSignals, hafter, heq, ← hf device]
  rw [hafter, heq] at hids
  exact receive_deviceChanged hids hlt

theorem receive_deviceAdded (hchanging : model.changing = some (before.length + 1)) :
    (w.showing qt before model).receive qt (.deviceAdded, before ++ [device]) =
      w.showing qt (before ++ [device]) { model with changing := none } := by
  let sources : Sources := { w.sources with devices := before }
  have hlength : before.length + 1 = (sources.rows qt).length := by
    rw [Sources.rows_eq]
    simp [sources]
  have hrows : ({ w.sources with devices := before ++ [device] } : Sources).rows qt =
      sources.rows qt ++ [Sources.remoteRow qt (before.length + 1) device] :=
    sources.rows_concat
  have hview : Rows.apply (({ w.sources with devices := before ++ [device] } : Sources).rows qt)
      (sources.rows qt) (.rowsInserted (before.length + 1)) =
      ({ w.sources with devices := before ++ [device] } : Sources).rows qt := by
    rw [hrows, hlength]
    exact Rows.apply_rowsInserted_concat
  simp only [receive, DeviceModel.receive, hchanging, announce, showing, Option.toList_some,
    List.map_cons, List.map_nil, Rows.follow, List.foldl_cons, List.foldl_nil]
  exact congrArg (fun view => { w with model := { model with changing := none }, view }) hview

/-- A device is added at the end. -/
theorem foldl_added {call : Call} (hafter : after = before ++ [device]) :
    ((Signal.deviceAboutToBeAdded before.length, before) ::
        (persistSignals call after ++ [(.deviceAdded, after), (.devicesChanged, after)])).foldl
          (receive qt) (w.showing qt before {}) = w.showing qt after {} := by
  have habout : (w.showing qt before {}).receive qt (.deviceAboutToBeAdded before.length, before) =
      w.showing qt before
        { structuredRegistryChange := true, changing := some (before.length + 1) } := rfl
  rw [List.foldl_cons, habout, foldl_persistSignals, hafter, List.foldl_cons,
    receive_deviceAdded rfl]
  rfl

/-- A device is removed: its row goes, and no other is announced. -/
theorem foldl_removed {call : Call} :
    ((Signal.deviceAboutToBeRemoved index, before) ::
        (persistSignals call after ++ [(.deviceRemoved, after), (.devicesChanged, after)])).foldl
          (receive qt) (w.showing qt before {}) =
      { w with
        model := {}
        view := (({ w.sources with devices := before } : Sources).rows qt).eraseIdx (index + 1) } := by
  have habout : (w.showing qt before {}).receive qt (.deviceAboutToBeRemoved index, before) =
      w.showing qt before
        { structuredRegistryChange := true, changing := some (index + 1) } := rfl
  rw [List.foldl_cons, habout, foldl_persistSignals]
  rfl

section Forgotten

theorem deviceNumber_ne : ∀ n < 70, deviceNumber (n + 1) ≠ deviceNumber n := by decide

/-- What is left of the rows is the rows of what is left just if the last one went: every row
below shows its number. -/
theorem eraseIdx_rows_iff (sources : Sources) (hlength : sources.devices.length ≤ maximumDevices)
    (hlt : index < sources.devices.length) :
    (sources.rows qt).eraseIdx (index + 1) =
        ({ sources with devices := sources.devices.eraseIdx index } : Sources).rows qt ↔
      index + 1 = sources.devices.length := by
  rw [Sources.rows_eq, Sources.rows_eq, List.eraseIdx_cons_succ]
  constructor
  · intro h
    by_contra hne
    have hnext : index + 1 < sources.devices.length := by omega
    have hget := congrArg (·[index + 1]?) h
    simp only [List.getElem?_cons_succ, List.getElem?_eraseIdx, List.getElem?_mapIdx,
      Nat.lt_irrefl, if_false, List.getElem?_eq_getElem hnext, Option.map_some,
      Option.some.injEq] at hget
    have hnumber := congrFun hget .deviceNumberRole
    have hbound : index + 2 < 70 := by
      have : maximumDevices = 64 := rfl
      omega
    exact deviceNumber_ne _ hbound (QVariant.string.inj hnumber)
  · intro h
    have htail : (sources.devices.mapIdx fun index device =>
          Sources.remoteRow qt (index + 1) device).eraseIdx index =
        (sources.devices.eraseIdx index).mapIdx fun index device =>
          Sources.remoteRow qt (index + 1) device := by
      refine List.ext_getElem? fun j => ?_
      simp only [List.getElem?_eraseIdx, List.getElem?_mapIdx]
      split
      case isTrue => rfl
      case isFalse hj =>
        rw [List.getElem?_eq_none (by omega)]
        rfl
    rw [htail]
    rfl

/-- The device that is forgotten, if there is one, is the last. -/
def ForgetsLast (w : Watched) : Operation → Prop
  | .registry ⟨.forgetDevice deviceId, _⟩ => ∀ index device,
    w.registry.devices[index]? = some device → device.deviceId = deviceId →
      index + 1 = w.registry.devices.length
  | _ => True

end Forgotten

section Step

variable {hello : Hello} {snapshot : DeviceSnapshot} {sender : Endpoint} {call : Call}

theorem foldl_sent_updateFreshness (hr : w.registry.WellFormed) :
    (freshnessSignals call.now [] w.registry.devices).foldl (receive qt)
        (w.showing qt w.registry.devices {}) =
      w.showing qt (w.registry.updateFreshness call).devices {} := by
  have hfold : (freshnessSignals call.now [] w.registry.devices).foldl (receive qt)
      (w.showing qt ([] ++ w.registry.devices) {}) =
      w.showing qt ([] ++ w.registry.devices.map (Device.refresh · call.now)) {} :=
    foldl_freshnessSignals hr.nodup
  exact hfold

theorem foldl_sent_registerHello (hr : w.registry.WellFormed) :
    (w.registry.sent cbor ⟨.registerHello hello sender, call⟩).foldl (receive qt)
        (w.showing qt w.registry.devices {}) =
      w.showing qt (w.registry.step cbor ⟨.registerHello hello sender, call⟩).devices {} := by
  have hfresh : _ = w.showing qt (w.registry.updateFreshness call).devices {} :=
    foldl_sent_updateFreshness hr
  have hnodup : (w.registry.updateFreshness call).ids.Nodup := by
    rw [RemoteDeviceRegistry.ids_updateFreshness]
    exact hr.nodup
  simp only [RemoteDeviceRegistry.sent, List.foldl_append, hfresh, helloSignals]
  cases hd : (w.registry.updateFreshness call).device hello.deviceId with
  | none =>
    dsimp only
    split
    case isTrue hfull =>
      simp [RemoteDeviceRegistry.step, RemoteDeviceRegistry.registerHello, hd, hfull]
    case isFalse hroom =>
      have hafter : (w.registry.step cbor ⟨.registerHello hello sender, call⟩).devices =
          (w.registry.updateFreshness call).devices ++
            [.ofHello hello sender.address sender.port] := by
        simp [RemoteDeviceRegistry.step, RemoteDeviceRegistry.registerHello, hd, hroom]
      exact foldl_added hafter
  | some item =>
    dsimp only
    split
    case isTrue hcompetes =>
      simp [RemoteDeviceRegistry.step, RemoteDeviceRegistry.registerHello, hd, hcompetes]
    case isFalse haccepted =>
      have hafter : (w.registry.step cbor ⟨.registerHello hello sender, call⟩).devices =
          Keyed.modify Device.deviceId hello.deviceId
            (·.register hello sender.address sender.port)
            (w.registry.updateFreshness call).devices := by
        simp [RemoteDeviceRegistry.step, RemoteDeviceRegistry.registerHello, hd, haccepted]
      exact foldl_changed (fun item => item.deviceId_register hello sender.address sender.port) hd
        hnodup hafter

theorem foldl_sent_acceptSnapshot (hr : w.registry.WellFormed) :
    (w.registry.sent cbor ⟨.acceptSnapshot snapshot sender, call⟩).foldl (receive qt)
        (w.showing qt w.registry.devices {}) =
      w.showing qt (w.registry.step cbor ⟨.acceptSnapshot snapshot sender, call⟩).devices {} := by
  simp only [RemoteDeviceRegistry.sent]
  cases hd : w.registry.device snapshot.deviceId with
  | none => simp [RemoteDeviceRegistry.step, RemoteDeviceRegistry.acceptSnapshot, hd]
  | some item =>
    dsimp only
    split
    case isTrue hrejects =>
      simp [RemoteDeviceRegistry.step, RemoteDeviceRegistry.acceptSnapshot, hd, hrejects]
    case isFalse haccepted =>
      have hafter : (w.registry.step cbor ⟨.acceptSnapshot snapshot sender, call⟩).devices =
          Keyed.modify Device.deviceId snapshot.deviceId (·.apply snapshot call.now call.utc)
            w.registry.devices := by
        simp [RemoteDeviceRegistry.step, RemoteDeviceRegistry.acceptSnapshot, hd, haccepted]
      exact foldl_changed (fun item => item.deviceId_apply snapshot call.now call.utc) hd hr.nodup
        hafter

theorem showing_self (h : w.Shows qt) (hm : w.model = {}) :
    w.showing qt w.registry.devices {} = w := by
  unfold showing
  rw [← hm]
  exact congrArg (fun view => { w with view }) h.symm

/-- Every operation but the forgetting of a device. -/
theorem step_registry (h : w.Shows qt) (hm : w.model = {}) (hr : w.registry.WellFormed)
    {e : Telemetry.Event} (he : ∀ deviceId, e.operation ≠ .forgetDevice deviceId) :
    w.step qt cbor (.registry e) = { w.showing qt (w.registry.step cbor e).devices {} with
      registry := w.registry.step cbor e } := by
  have hw : w.showing qt w.registry.devices {} = w := showing_self h hm
  have hfold : (w.registry.sent cbor e).foldl (receive qt) w =
      w.showing qt (w.registry.step cbor e).devices {} := by
    obtain ⟨operation, call⟩ := e
    cases operation with
    | registerHello hello sender => exact hw ▸ foldl_sent_registerHello hr
    | acceptSnapshot snapshot sender => exact hw ▸ foldl_sent_acceptSnapshot hr
    | updateFreshness => exact hw ▸ foldl_sent_updateFreshness hr
    | forgetDevice deviceId => exact absurd rfl (he deviceId)
  rw [step, hfold]

theorem forgetsLast_iff (hr : w.registry.WellFormed) {deviceId : QUuid}
    (hfound : w.registry.devices.findIdx? (fun device => device.deviceId = deviceId) = some index) :
    w.ForgetsLast (.registry ⟨.forgetDevice deviceId, call⟩) ↔
      index + 1 = w.registry.devices.length := by
  constructor
  · intro hlast
    obtain ⟨hlt, hid, -⟩ := List.findIdx?_eq_some_iff_getElem.mp hfound
    exact hlast index _ (List.getElem?_eq_getElem hlt) (of_decide_eq_true hid)
  · rintro hlast other device hother rfl
    have hother := findIdx?_of_nodup hr.nodup hother
    rwa [Option.some.inj (hother.symm.trans hfound)]

theorem step_forgetDevice (h : w.Shows qt) (hm : w.model = {}) {deviceId : QUuid} {item : Device}
    (hd : w.registry.device deviceId = some item)
    (hindex : (w.registry.devices.findIdx fun device => device.deviceId = deviceId) = index) :
    w.step qt cbor (.registry ⟨.forgetDevice deviceId, call⟩) =
      { w with
        model := {}
        view := (w.rows qt).eraseIdx (index + 1)
        registry := w.registry.step cbor ⟨.forgetDevice deviceId, call⟩ } := by
  have hw : w.showing qt w.registry.devices {} = w := showing_self h hm
  have hfold : (w.registry.sent cbor ⟨.forgetDevice deviceId, call⟩).foldl (receive qt) w =
      { w with model := {}, view := (w.rows qt).eraseIdx (index + 1) } := by
    simp only [RemoteDeviceRegistry.sent, hd, hindex]
    exact hw ▸ foldl_removed
  rw [step, hfold]

/-- A device is forgotten. -/
theorem shows_forgetDevice_iff (h : w.Shows qt) (hm : w.model = {}) (hr : w.registry.WellFormed)
    {deviceId : QUuid} :
    (w.step qt cbor (.registry ⟨.forgetDevice deviceId, call⟩)).Shows qt ↔
      w.ForgetsLast (.registry ⟨.forgetDevice deviceId, call⟩) := by
  cases hd : w.registry.device deviceId with
  | none =>
    have hdevices : (w.registry.step cbor ⟨.forgetDevice deviceId, call⟩).devices =
        w.registry.devices := by
      simp [RemoteDeviceRegistry.step, RemoteDeviceRegistry.forgetDevice, hd]
    have hshows : (w.step qt cbor (.registry ⟨.forgetDevice deviceId, call⟩)).Shows qt := by
      rw [step, Shows, rows, sources]
      simp only [hdevices, RemoteDeviceRegistry.sent, hd, List.foldl_nil]
      exact h
    refine iff_of_true hshows fun index device hdevice hid => ?_
    have hmem := List.mem_map_of_mem (f := Device.deviceId) (List.mem_of_getElem? hdevice)
    exact absurd (hid ▸ hmem) (RemoteDeviceRegistry.device_eq_none.mp hd)
  | some item =>
    obtain ⟨index, hfound⟩ : ∃ index, w.registry.devices.findIdx?
        (fun device => device.deviceId = deviceId) = some index := by
      rw [← Option.isSome_iff_exists, List.findIdx?_isSome, List.any_eq_true]
      exact ⟨item, Keyed.mem_of_find hd, decide_eq_true (Keyed.key_of_find hd)⟩
    obtain ⟨hlt, hindex⟩ := List.findIdx?_eq_some_iff_findIdx_eq.mp hfound
    have hdevices : (w.registry.step cbor ⟨.forgetDevice deviceId, call⟩).devices =
        w.registry.devices.eraseIdx index := by
      refine (RemoteDeviceRegistry.devices_forgetDevice call deviceId).trans ?_
      rw [Keyed.erase, List.eraseP_eq_eraseIdx, hfound]
    rw [forgetsLast_iff hr hfound, step_forgetDevice h hm hd hindex]
    change (w.rows qt).eraseIdx (index + 1) = ({ w.sources with
      devices := (w.registry.step cbor ⟨.forgetDevice deviceId, call⟩).devices } : Sources).rows qt ↔ _
    rw [hdevices]
    exact eraseIdx_rows_iff w.sources hr.length_le hlt

end Step

section Run

/-- What holds between two operations. -/
structure Settled (qt : QtText) (w : Watched) : Prop where
  shows : w.Shows qt
  idle : w.model = {}
  registry : w.registry.WellFormed

theorem Settled.step_idle (h : w.Settled qt) (op : Operation) :
    (w.step qt cbor op).model = {} := by
  cases op with
  | info e => exact h.idle
  | metrics e => exact h.idle
  | registry e =>
    obtain ⟨operation, call⟩ := e
    cases operation with
    | forgetDevice deviceId =>
      cases hd : w.registry.device deviceId with
      | none =>
        simp only [step, RemoteDeviceRegistry.sent, hd, List.foldl_nil]
        exact h.idle
      | some item => rw [step_forgetDevice h.shows h.idle hd rfl]
    | _ =>
      rw [Watched.step_registry h.shows h.idle h.registry (by simp)]
      rfl

theorem wellFormed_step (hr : w.registry.WellFormed) (op : Operation) :
    (w.step qt cbor op).registry.WellFormed := by
  cases op with
  | info e => exact hr
  | metrics e => exact hr
  | registry e => exact hr.step e

/-- One operation: the view is a copy again unless a device above others is forgotten. -/
theorem Settled.shows_step_iff (h : w.Settled qt) (op : Operation) :
    (w.step qt cbor op).Shows qt ↔ w.ForgetsLast op := by
  cases op with
  | info e => exact iff_of_true (h.shows.info e) trivial
  | metrics e => exact iff_of_true (h.shows.metrics e) trivial
  | registry e =>
    obtain ⟨operation, call⟩ := e
    cases operation with
    | forgetDevice deviceId => exact shows_forgetDevice_iff h.shows h.idle h.registry
    | _ =>
      refine iff_of_true ?_ trivial
      rw [Watched.step_registry h.shows h.idle h.registry (by simp)]
      rfl

theorem foldl_receive_model {w' : Watched} (h : w'.model = w.model) (signals : List Sent) :
    (signals.foldl (receive qt) w').model = (signals.foldl (receive qt) w).model := by
  induction signals generalizing w w' with
  | nil => exact h
  | cons sent signals ih =>
    refine ih ?_
    change (w'.model.receive sent.2 sent.1).1 = (w.model.receive sent.2 sent.1).1
    rw [h]

/-- Whatever the view shows. -/
theorem step_idle (hm : w.model = {}) (hr : w.registry.WellFormed) (op : Operation) :
    (w.step qt cbor op).model = {} := by
  have hcopied : (w.copied qt).Settled qt := ⟨rfl, hm, hr⟩
  have hidle : ((w.copied qt).step qt cbor op).model = {} := hcopied.step_idle op
  cases op with
  | info e => exact hm
  | metrics e => exact hm
  | registry e =>
    have hsame : w.model = (w.copied qt).model := rfl
    exact (foldl_receive_model hsame _).trans hidle

theorem settled_copied (storage : StorageFile) (earlier : List Operation) :
    ((RpiDashboard.run (step qt cbor) (create cbor storage) earlier).copied qt).Settled qt := by
  have hrun : (RpiDashboard.run (step qt cbor) (create cbor storage) earlier).model = {} ∧
      (RpiDashboard.run (step qt cbor) (create cbor storage) earlier).registry.WellFormed := by
    refine run_invariant (P := fun w : Watched => w.model = {} ∧ w.registry.WellFormed)
      ⟨rfl, wellFormed_create storage⟩ fun w op _ h => ?_
    exact ⟨step_idle h.1 h.2 op, wellFormed_step h.2 op⟩
  exact ⟨rfl, hrun.1, hrun.2⟩

/-- A view that is a copy at some time follows the model by its announcements alone as long as no
device is forgotten that has others after it; then it no longer shows the model. -/
theorem signals_complete_iff (qt : QtText) (cbor : QtCbor) (storage : StorageFile)
    (earlier later : List Operation) :
    let w := (RpiDashboard.run (step qt cbor) (create cbor storage) earlier).copied qt
    Throughout (step qt cbor) (fun w op => (w.step qt cbor op).Shows qt) w later ↔
      Throughout (step qt cbor) ForgetsLast w later := by
  refine throughout_iff (settled_copied storage earlier) (fun w op h => h.shows_step_iff op) ?_
  exact fun w op h hshows => ⟨hshows, h.step_idle op, wellFormed_step h.registry op⟩

end Run

section Sample

def otherHello : Hello := { sampleHello with deviceId := ⟨List.replicate 16 0x55, rfl⟩ }

def sampleQt : QtText where
  fromJson _ := none
  fromIsoDate _ := {}
  fixed := fixedText
  urlText url := url.text
  toLower text := text
  sameLetters a b := a = b
  toLongLong _ := none
  withoutQueries text := text

/-- Two devices are registered. -/
def sampleOperations : List Operation :=
  [.registry ⟨.registerHello sampleHello sampleSender, { nowMs := 0 }⟩,
    .registry ⟨.registerHello otherHello sampleSender, { nowMs := 0 }⟩]

def sampleWatched : Watched :=
  (RpiDashboard.run (step sampleQt .reference) (create .reference .missing) sampleOperations).copied
    sampleQt

def sampleForgetting : Operation :=
  .registry ⟨.forgetDevice sampleHello.deviceId, { nowMs := 1000 }⟩

/-- The first of them is forgotten: the view still shows the other one as number 03. -/
theorem forgetting_leaves_number :
    ¬ Throughout (step sampleQt .reference)
      (fun w op => (w.step sampleQt .reference op).Shows sampleQt) sampleWatched
      [sampleForgetting] := by
  intro h
  have hnumber := congrArg (fun rows => rows[1]?.map (· .deviceNumberRole)) h.1
  exact absurd hnumber (by decide +kernel)

end Sample

end Remote

end Watched

end RpiDashboard.Dashboard
