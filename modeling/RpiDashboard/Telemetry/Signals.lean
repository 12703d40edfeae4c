import RpiDashboard.Telemetry.LifecycleLaws

/-! The signals of the registry, each with the devices as they are when it is sent. -/

namespace RpiDashboard.Telemetry

open Qt Protocol

abbrev Sent := Signal × List Device

namespace RemoteDeviceRegistry

/-- The loop of `updateFreshness`; `done` are the devices it has passed. -/
def freshnessSignals (current : Int) (done : List Device) : List Device → List Sent
  | [] => []
  | item :: rest =>
    let later := freshnessSignals current (done ++ [item.refresh current]) rest
    if (item.refresh current).state ≠ item.state then
      (.deviceChanged item.deviceId, done ++ item.refresh current :: rest) :: later
    else later

def persistSignals (call : Call) (devices : List Device) : List Sent :=
  if call.saved then [] else [(.diagnosticChanged, devices)]

variable (qt : QtCbor)

/-- What `registerHello` sends after `updateFreshness`, which has left `r`. -/
def helloSignals (r : RemoteDeviceRegistry) (hello : Hello) (address : QHostAddress) (call : Call)
    (after : List Device) : List Sent :=
  match r.device hello.deviceId with
  | some item =>
    if item.competes hello address then []
    else persistSignals call after ++ [(.deviceChanged item.deviceId, after)]
  | none =>
    if r.devices.length ≥ maximumDevices then []
    else (.deviceAboutToBeAdded r.devices.length, r.devices) ::
      (persistSignals call after ++ [(.deviceAdded, after), (.devicesChanged, after)])

/-- The signals of an operation, in order. -/
def sent (r : RemoteDeviceRegistry) (e : Event) : List Sent :=
  let after := (r.step qt e).devices
  match e.operation with
  | .registerHello hello sender =>
    freshnessSignals e.call.now [] r.devices ++
      (r.updateFreshness e.call).helloSignals hello sender.address e.call after
  | .acceptSnapshot snapshot sender => match r.device snapshot.deviceId with
    | some item =>
      if item.rejects snapshot sender.address sender.port then []
      else persistSignals e.call after ++ [(.deviceChanged item.deviceId, after)]
    | none => []
  | .updateFreshness => freshnessSignals e.call.now [] r.devices
  | .forgetDevice deviceId => match r.device deviceId with
    | some _ =>
      (.deviceAboutToBeRemoved (r.devices.findIdx fun item => item.deviceId = deviceId),
          r.devices) ::
        (persistSignals e.call after ++ [(.deviceRemoved, after), (.devicesChanged, after)])
    | none => []

variable {qt} {r : RemoteDeviceRegistry}

theorem freshnessSignals_fst (current : Int) (done items : List Device) :
    (freshnessSignals current done items).map Prod.fst =
      (items.filter fun item => (item.refresh current).state ≠ item.state).map
        fun item => .deviceChanged item.deviceId := by
  induction items generalizing done with
  | nil => rfl
  | cons item rest ih =>
    rw [freshnessSignals, List.filter_cons]
    by_cases h : (item.refresh current).state ≠ item.state
    · simp [h, ih]
    · simp [h, ih]

theorem signals_updateFreshness (call : Call) :
    (r.updateFreshness call).signals =
      r.signals ++ (freshnessSignals call.now [] r.devices).map Prod.fst := by
  rw [freshnessSignals_fst]
  rfl

@[simp] theorem persistSignals_fst (call : Call) (devices : List Device) :
    (persistSignals call devices).map Prod.fst = if call.saved then [] else [.diagnosticChanged] := by
  unfold persistSignals
  split <;> rfl

@[simp] theorem signals_emit (signals : List Signal) :
    (r.emit signals).signals = r.signals ++ signals := rfl

@[simp] theorem signals_persist (call : Call) : (r.persist qt call).signals =
    r.signals ++ if call.saved then [] else [.diagnosticChanged] := by
  unfold persist
  split <;> simp

theorem signals_registerHello (hello : Hello) (sender : Endpoint) (call : Call)
    (after : List Device) :
    (r.registerHello qt hello sender.address sender.port call).2.signals =
      (r.updateFreshness call).signals ++
        ((r.updateFreshness call).helloSignals hello sender.address call after).map Prod.fst := by
  simp only [registerHello, helloSignals]
  generalize r.updateFreshness call = r
  cases r.device hello.deviceId with
  | none =>
    dsimp only
    split <;> simp
  | some item =>
    dsimp only
    split <;> simp

/-- These are the signals that are kept with the registry. -/
theorem signals_step (e : Event) :
    (r.step qt e).signals = r.signals ++ (r.sent qt e).map Prod.fst := by
  obtain ⟨operation, call⟩ := e
  simp only [sent]
  generalize (r.step qt ⟨operation, call⟩).devices = after
  cases operation with
  | registerHello hello sender =>
    dsimp only
    rw [List.map_append, ← List.append_assoc, ← signals_updateFreshness]
    exact signals_registerHello hello sender call after
  | acceptSnapshot snapshot sender =>
    simp only [step, acceptSnapshot]
    cases r.device snapshot.deviceId with
    | none => simp
    | some item =>
      dsimp only
      split <;> simp
  | updateFreshness => exact signals_updateFreshness call
  | forgetDevice deviceId =>
    simp only [step, forgetDevice]
    cases r.device deviceId with
    | none => simp
    | some item => simp

end RemoteDeviceRegistry

end RpiDashboard.Telemetry
