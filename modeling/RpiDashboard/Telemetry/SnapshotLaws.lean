import RpiDashboard.Telemetry.RegistryLaws
import RpiDashboard.Telemetry.UdpTelemetryReceiverLaws

/-! Snapshots are applied in order and at most once. -/

namespace RpiDashboard.Telemetry

open Qt Protocol RemoteDeviceRegistry

/-- The step neither forgets device `id` nor gives it another instance. -/
def Event.keepsInstance (qt : QtCbor) (id : QUuid) (r : RemoteDeviceRegistry) (e : Event) : Bool :=
  (r.device id).all fun item =>
    ((r.step qt e).device id).any fun item' => item'.instanceId = item.instanceId

/-- The same for every step of a run. -/
abbrev InstanceKept (qt : QtCbor) (id : QUuid) (r : RemoteDeviceRegistry) (es : List Event) : Prop :=
  Throughout (step qt) (fun r e => e.keepsInstance qt id r) r es

/-- The snapshots accepted for device `id` in a run, in order. -/
def acceptedSnapshots (qt : QtCbor) (id : QUuid) (r : RemoteDeviceRegistry) (es : List Event) :
    List DeviceSnapshot :=
  emitted (step qt) (fun r e => (e.accepted qt id r).toList) r es

/-- What the registry holds for the sender of a snapshot. -/
structure Device.Matches (item : Device) (snapshot : DeviceSnapshot) (sender : Endpoint) : Prop where
  instanceId : snapshot.instanceId = item.instanceId
  address : sender.address = item.address
  port : sender.port = item.port
  interval : snapshot.intervalSeconds = item.intervalSeconds

variable {qt : QtCbor} {id : QUuid} {r : RemoteDeviceRegistry} {e : Event}

theorem Device.rejects_eq_false {item : Device} {snapshot : DeviceSnapshot} {sender : Endpoint} :
    item.rejects snapshot sender.address sender.port = false ↔
      item.Matches snapshot sender ∧ ∀ n ∈ item.lastSequence, n < snapshot.sequence := by
  have hsequence : item.lastSequence.any (snapshot.sequence ≤ ·) = false ↔
      ∀ n ∈ item.lastSequence, n < snapshot.sequence := by
    cases item.lastSequence <;> simp
  simp only [Device.rejects, Bool.or_eq_false_iff, decide_eq_false_iff_not, ne_eq, not_not,
    hsequence]
  constructor
  · rintro ⟨⟨⟨⟨hi, ha⟩, hp⟩, hs⟩, hn⟩
    exact ⟨⟨hi.symm, ha.symm, hp.symm, hs.symm⟩, hn⟩
  · rintro ⟨⟨hi, ha, hp, hs⟩, hn⟩
    exact ⟨⟨⟨⟨hi.symm, ha.symm⟩, hp.symm⟩, hs.symm⟩, hn⟩

theorem Event.keepsInstance_spec {item : Device} (h : e.keepsInstance qt id r = true)
    (hd : r.device id = some item) :
    ∃ item', (r.step qt e).device id = some item' ∧ item'.instanceId = item.instanceId := by
  rw [Event.keepsInstance, hd, Option.all_some, Option.any_eq_true] at h
  obtain ⟨item', hd', hi⟩ := h
  exact ⟨item', hd', by simpa using hi⟩

theorem Event.accepted_spec {snapshot : DeviceSnapshot}
    (h : e.accepted qt id r = some snapshot) :
    ∃ sender item, e.operation = .acceptSnapshot snapshot sender ∧ snapshot.deviceId = id ∧
      r.device id = some item ∧ item.rejects snapshot sender.address sender.port = false := by
  unfold Event.accepted at h
  split at h
  · rename_i snapshot' sender heq
    split at h
    · rename_i hc
      cases h
      simp only [Bool.and_eq_true, decide_eq_true_eq] at hc
      obtain ⟨rfl, hreply⟩ := hc
      cases hd : r.device snapshot.deviceId with
      | some item =>
        rw [acceptSnapshot_known _ _ _ _ hd] at hreply
        exact ⟨sender, item, heq, rfl, rfl, by simpa using hreply⟩
      | none =>
        rw [acceptSnapshot_unknown _ _ _ _ hd] at hreply
        cases hreply
    · cases h
  · cases h

/-- An accepted snapshot is newer than the last one and is what the entry then holds. -/
theorem device_step_of_accepted (hr : r.WellFormed) {snapshot : DeviceSnapshot} {item : Device}
    (h : e.accepted qt id r = some snapshot) (hd : r.device id = some item) :
    (∀ n ∈ item.lastSequence, n < snapshot.sequence) ∧
      (r.step qt e).device id = some (item.apply snapshot e.time e.call.utc) := by
  obtain ⟨sender, item', heq, hid, hd', hc⟩ := Event.accepted_spec h
  obtain rfl : item = item' := Option.some.inj (hd.symm.trans hd')
  refine ⟨(Device.rejects_eq_false.mp hc).2, ?_⟩
  rw [device_step hr, hd]
  simp [lifecycle, heq, hid, hc]

/-- Any other step that keeps the instance keeps the last sequence number and the metrics. -/
theorem device_step_of_not_accepted (hr : r.WellFormed) {item item' : Device}
    (h : e.accepted qt id r = none) (hd : r.device id = some item)
    (hd' : (r.step qt e).device id = some item') (hi : item'.instanceId = item.instanceId) :
    item'.lastSequence = item.lastSequence ∧ item'.metrics = item.metrics := by
  rw [device_step hr, hd] at hd'
  cases change_of_lifecycle hd' with
  | kept => exact ⟨rfl, rfl⟩
  | refreshed => simp
  | @registered hello sender _ _ _ =>
    by_cases hsame : (item.refresh e.time).instanceId = hello.instanceId
    · rw [Device.register_same _ _ hsame]
      simp
    · rw [Device.register_other _ _ hsame] at hi
      exact absurd ((item.instanceId_refresh e.time).trans hi.symm) hsame
  | @applied snapshot sender heq hid hc =>
    have hreply := acceptSnapshot_known qt snapshot sender e.call (hid ▸ hd)
    simp [Event.accepted, heq, hid, hreply, hc] at h

theorem acceptedSnapshots_cons (es : List Event) :
    acceptedSnapshots qt id r (e :: es) =
      (e.accepted qt id r).toList ++ acceptedSnapshots qt id (r.step qt e) es := rfl

theorem acceptedSnapshots_of_known (hr : r.WellFormed) {item : Device}
    (hd : r.device id = some item) {es : List Event}
    (ht : InstanceKept qt id r es) :
    (∀ x ∈ acceptedSnapshots qt id r es, ∀ n ∈ item.lastSequence, n < x.sequence) ∧
      (acceptedSnapshots qt id r es).Pairwise (·.sequence < ·.sequence) ∧
      ∃ item', (run (step qt) r es).device id = some item' ∧ item'.metrics =
        ((acceptedSnapshots qt id r es).map (·.metrics)).getLast?.getD item.metrics := by
  induction es generalizing r item with
  | nil => exact ⟨by simp [acceptedSnapshots, emitted], .nil, item, hd, rfl⟩
  | cons e es ih =>
    obtain ⟨hkeep, ht⟩ := ht
    obtain ⟨item', hd', hi⟩ := Event.keepsInstance_spec hkeep hd
    obtain ⟨hnewer, horder, last, hlast, hmetrics⟩ := ih (hr.step e) hd' ht
    rw [acceptedSnapshots_cons]
    cases h : e.accepted qt id r with
    | none =>
      obtain ⟨hs, hm⟩ := device_step_of_not_accepted hr h hd hd' hi
      rw [hs] at hnewer
      rw [hm] at hmetrics
      exact ⟨hnewer, horder, last, hlast, hmetrics⟩
    | some x =>
      obtain ⟨hlt, hstep⟩ := device_step_of_accepted hr h hd
      obtain rfl : item' = item.apply x e.time e.call.utc := Option.some.inj (hd'.symm.trans hstep)
      replace hnewer : ∀ y ∈ acceptedSnapshots qt id (r.step qt e) es, x.sequence < y.sequence :=
        fun y hy => hnewer y hy x.sequence rfl
      refine ⟨fun y hy n hn => ?_, List.pairwise_cons.mpr ⟨hnewer, horder⟩, last, hlast, ?_⟩
      · rcases List.mem_cons.mp hy with rfl | hy
        · exact hlt n hn
        · exact UInt64.lt_trans (hlt n hn) (hnewer y hy)
      · rw [hmetrics]
        simp [List.getLast?_cons, Device.apply]

theorem acceptedSnapshots_in_order (hr : r.WellFormed) {es : List Event}
    (ht : InstanceKept qt id r es) :
    (acceptedSnapshots qt id r es).Pairwise (·.sequence < ·.sequence) ∧
      ∀ x ∈ (acceptedSnapshots qt id r es).getLast?,
        ∃ item, (run (step qt) r es).device id = some item ∧ item.metrics = x.metrics := by
  induction es generalizing r with
  | nil => exact ⟨.nil, by simp [acceptedSnapshots, emitted]⟩
  | cons e es ih =>
    cases hd : r.device id with
    | some item =>
      obtain ⟨-, horder, last, hlast, hmetrics⟩ := acceptedSnapshots_of_known hr hd ht
      refine ⟨horder, fun x hx => ⟨last, hlast, ?_⟩⟩
      simpa [List.getLast?_map, Option.mem_def.mp hx] using hmetrics
    | none =>
      have hnone : e.accepted qt id r = none := by
        cases h : e.accepted qt id r with
        | none => rfl
        | some x =>
          obtain ⟨_, item, -, -, hd', -⟩ := Event.accepted_spec h
          cases hd.symm.trans hd'
      rw [acceptedSnapshots_cons, hnone]
      exact ih (hr.step e) ht.2

theorem getLast?_of_greatest {snapshots : List DeviceSnapshot}
    (h : snapshots.Pairwise (·.sequence < ·.sequence)) {x : DeviceSnapshot} (hx : x ∈ snapshots)
    (hmax : ∀ y ∈ snapshots, y.sequence ≤ x.sequence) : snapshots.getLast? = some x := by
  induction snapshots using List.reverseRecOn with
  | nil => cases hx
  | append_singleton init last =>
    rw [List.getLast?_concat]
    obtain ⟨-, -, hlt⟩ := List.pairwise_append.mp h
    rcases List.mem_append.mp hx with hx | hx
    · have hle := hmax last (by simp)
      exact absurd (hlt x hx last (by simp)) (UInt64.not_lt.mpr hle)
    · rw [List.mem_singleton.mp hx]

/-- Every run of the receiver is a run of the registry in which, as long as a device
keeps its instance, its snapshots are accepted in order and at most once; an accepted
snapshot matches the registration, and a rejected one changes nothing. -/
theorem snapshots_at_most_once (qt : QtCbor) (storage : StorageFile)
    (inputs : List UdpTelemetryReceiver.Input) :
    let u : UdpTelemetryReceiver := { registry := create qt storage }
    let events := emitted (UdpTelemetryReceiver.step qt) (UdpTelemetryReceiver.requests qt) u inputs
    (run (UdpTelemetryReceiver.step qt) u inputs).registry = after qt storage events ∧
      (∀ id before during later, events = before ++ during ++ later →
        InstanceKept qt id (after qt storage before) during →
        let accepted := acceptedSnapshots qt id (after qt storage before) during
        accepted.Pairwise (·.sequence < ·.sequence) ∧
          ∀ x ∈ accepted, (∀ y ∈ accepted, y.sequence ≤ x.sequence) →
            ∃ item, (after qt storage (before ++ during)).device id = some item ∧
              item.metrics = x.metrics) ∧
      ∀ before snapshot sender call later,
        events = before ++ ⟨.acceptSnapshot snapshot sender, call⟩ :: later →
        let r := after qt storage before
        match r.acceptSnapshot qt snapshot sender.address sender.port call with
        | (true, _) => ∃ item, r.device snapshot.deviceId = some item ∧
            item.Matches snapshot sender
        | (false, r') => r' = r := by
  intro u events
  refine ⟨UdpTelemetryReceiver.registry_run u inputs, ?_, ?_⟩
  · intro id before during later _ ht accepted
    obtain ⟨horder, hlast⟩ := acceptedSnapshots_in_order (wellFormed_after qt storage before) ht
    refine ⟨horder, fun x hx hmax => ?_⟩
    rw [after, run_append]
    exact hlast x (getLast?_of_greatest horder hx hmax)
  · intro before snapshot sender call later _ r
    split
    · rename_i r' heq
      have hreply : (r.acceptSnapshot qt snapshot sender.address sender.port call).1 = true := by
        rw [heq]
      cases hd : r.device snapshot.deviceId with
      | some item =>
        rw [acceptSnapshot_known _ _ _ _ hd] at hreply
        exact ⟨item, rfl, (Device.rejects_eq_false.mp (by simpa using hreply)).1⟩
      | none =>
        rw [acceptSnapshot_unknown _ _ _ _ hd] at hreply
        cases hreply
    · rename_i r' heq
      have hreply := acceptSnapshot_rejected qt snapshot sender call (r := r) (by rw [heq])
      rwa [heq] at hreply

def sampleInputs : List UdpTelemetryReceiver.Input :=
  let hello := encodeMessage .reference (.hello sampleHello)
  let snapshot := encodeMessage .reference (.snapshot sampleSnapshot)
  [.arrival (some ⟨hello, sampleSender⟩), .arrival (some ⟨snapshot, sampleSender⟩),
    .arrival (some ⟨snapshot, sampleSender⟩), .readyRead fun _ => {}]

def sampleRequests : List Event :=
  [⟨.registerHello sampleHello sampleSender, {}⟩, ⟨.acceptSnapshot sampleSnapshot sampleSender, {}⟩,
    ⟨.acceptSnapshot sampleSnapshot sampleSender, {}⟩]

theorem emitted_sampleInputs :
    emitted (UdpTelemetryReceiver.step .reference) (UdpTelemetryReceiver.requests .reference)
      { registry := create .reference .missing } sampleInputs = sampleRequests := by
  have hhello := UdpTelemetryReceiver.request_encodeMessage QtCbor.reference_rfc8949
    (show TelemetryMessage.Valid (.hello sampleHello) by decide) (by decide +kernel) sampleSender {}
  have hsnapshot := UdpTelemetryReceiver.request_encodeMessage QtCbor.reference_rfc8949
    (show TelemetryMessage.Valid (.snapshot sampleSnapshot) by decide) (by decide +kernel) sampleSender {}
  simp [emitted, sampleInputs, sampleRequests, UdpTelemetryReceiver.requests,
    UdpTelemetryReceiver.step, UdpTelemetryReceiver.batchSize, UdpTelemetryReceiver.loopRequests,
    UdpTelemetryReceiver.clocked, hhello, hsnapshot]

theorem snapshots_at_most_once_sample :
    acceptedSnapshots .reference sampleDevice (create .reference .missing) sampleRequests =
        [sampleSnapshot] ∧
      ∃ item, (after .reference .missing sampleRequests).device sampleDevice = some item ∧
        item.metrics = sampleSnapshot.metrics := by
  have haccepted : acceptedSnapshots .reference sampleDevice (create .reference .missing)
      sampleRequests = [sampleSnapshot] := by decide +kernel
  have h := (snapshots_at_most_once .reference .missing sampleInputs).2.1 sampleDevice []
    sampleRequests [] (by simp [emitted_sampleInputs]) (by decide +kernel)
  exact ⟨haccepted, h.2 sampleSnapshot (haccepted ▸ List.mem_singleton_self _)
    (by simp [haccepted])⟩

end RpiDashboard.Telemetry
