import RpiDashboard.Telemetry.RegistryLaws

/-! Who may speak for a device: an active identity is not taken over, and when an
identity can be claimed again. -/

namespace RpiDashboard.Telemetry

open Qt Protocol RemoteDeviceRegistry

variable {qt : QtCbor} {id : QUuid} {e : Event}

section Takeover

/-- An active device repels any other instance at any other address. -/
theorem competes_of_other {item : Device} (hlocated : item.Located) {current : Int}
    (hactive : (item.refresh current).state ≠ .offline) {hello : Hello} {sender : Endpoint}
    (haddress : sender.address ≠ item.address) (hinstance : hello.instanceId ≠ item.instanceId) :
    (item.refresh current).competes hello sender.address = true := by
  have hnull := located_invariant.refreshed item current hlocated (.inl hactive)
  rw [Device.competes_iff]
  refine ⟨hactive, ?_, hnull, ?_⟩
  · simpa using hinstance.symm
  · simpa using haddress.symm

theorem Change.owner {item item' : Device} (h : Change id e item item')
    (hactive : (item.refresh e.time).state ≠ .offline) (hlocated : item.Located)
    (hchanged : (item'.instanceId, item'.address) ≠ (item.instanceId, item.address)) :
    ∃ hello sender, e.operation = .registerHello hello sender ∧ hello.deviceId = id ∧
      (sender.address = item.address ∨ hello.instanceId = item.instanceId) := by
  cases h with
  | kept => exact absurd rfl hchanged
  | refreshed => exact absurd (by simp) hchanged
  | applied => exact absurd rfl hchanged
  | @registered hello sender heq hid hc =>
    refine ⟨hello, sender, heq, hid, ?_⟩
    by_contra hother
    rw [not_or] at hother
    rw [competes_of_other hlocated hactive hother.1 hother.2] at hc
    cases hc

/-- The hello is answered with a reason, and of the entries only the freshness changes. -/
def RefusedWith (qt : QtCbor) (r : RemoteDeviceRegistry) (hello : Hello) (sender : Endpoint)
    (call : Call) (reason : QString) : Prop :=
  (r.registerHello qt hello sender.address sender.port call).1 = reason ∧
    (r.registerHello qt hello sender.address sender.port call).2.devices =
      r.devices.map fun item => { item with state := (item.refresh call.now).state }

theorem refusedWith_of_reply {r : RemoteDeviceRegistry} {hello : Hello} {sender : Endpoint}
    {call : Call} {reason : QString} (hne : reason ≠ "")
    (h : (r.registerHello qt hello sender.address sender.port call).1 = reason) :
    RefusedWith qt r hello sender call reason := by
  refine ⟨h, ?_⟩
  rw [registerHello_rejected _ _ _ _ (h ▸ hne)]
  exact List.map_congr_left fun item _ => item.refresh_eq call.now

/-- No takeover of an active identity: whatever the times, the owner of a device that
is active changes only by a hello from its address or of its instance, and a refused
hello changes nothing but the freshness. -/
theorem no_takeover (qt : QtCbor) (storage : StorageFile) (events : List Event) :
    let r := after qt storage events
    (∀ e id item item', r.device id = some item → (r.step qt e).device id = some item' →
      (item.refresh e.time).state ≠ .offline →
      (item'.instanceId, item'.address) ≠ (item.instanceId, item.address) →
      ∃ hello sender, e.operation = .registerHello hello sender ∧ hello.deviceId = id ∧
        (sender.address = item.address ∨ hello.instanceId = item.instanceId)) ∧
    (∀ (hello : Hello) (sender : Endpoint) (call : Call) (item : Device),
      r.device hello.deviceId = some item → (item.refresh call.now).state ≠ .offline →
      sender.address ≠ item.address → hello.instanceId ≠ item.instanceId →
      RefusedWith qt r hello sender call "duplicate_device_id") ∧
    ∀ (hello : Hello) (sender : Endpoint) (call : Call), r.device hello.deviceId = none →
      r.devices.length = 64 → RefusedWith qt r hello sender call "registry_full" := by
  intro r
  have hlocated : ∀ item ∈ r.devices, item.Located :=
    located_invariant.of_run storage fun _ _ => trivial
  refine ⟨?_, ?_, ?_⟩
  · intro e id item item' hd hd' hactive hchanged
    rw [device_step (wellFormed_after qt storage events), hd] at hd'
    exact (change_of_lifecycle hd').owner hactive (hlocated item (Keyed.mem_of_find hd)) hchanged
  · intro hello sender call item hd hactive haddress hinstance
    have hcompetes := competes_of_other (hlocated item (Keyed.mem_of_find hd)) hactive
      haddress hinstance
    refine refusedWith_of_reply (by simp) ?_
    rw [registerHello_known _ _ _ _ hd, if_pos hcompetes]
  · intro hello sender call hd hfull
    refine refusedWith_of_reply (by simp) ?_
    rw [registerHello_unknown _ _ _ _ hd, if_neg (by simp [hasRoom, hfull, maximumDevices])]

def rivalHello : Hello := { sampleHello with instanceId := ⟨List.replicate 16 0x33, rfl⟩ }
def rivalSender : Endpoint := ⟨.ipv4 0x0a000003, 40000, by decide⟩

theorem no_takeover_sample :
    RefusedWith .reference (after .reference .missing sampleEvents) rivalHello rivalSender
      { nowMs := 5000 } "duplicate_device_id" :=
  (no_takeover .reference .missing sampleEvents).2.1 rivalHello rivalSender { nowMs := 5000 } _ rfl
    (by decide +kernel) (by decide +kernel) (by decide +kernel)

end Takeover

section Claim

/-- The registry accepts the event's hello or snapshot for device `id`. -/
def Event.acceptedFor (qt : QtCbor) (id : QUuid) (r : RemoteDeviceRegistry) (e : Event) : Bool :=
  match e.operation with
  | .registerHello hello sender => hello.deviceId = id &&
      (r.registerHello qt hello sender.address sender.port e.call).1 = ""
  | .acceptSnapshot snapshot sender => snapshot.deviceId = id &&
      (r.acceptSnapshot qt snapshot sender.address sender.port e.call).1
  | _ => false

/-- A hello or snapshot of device `id` was accepted at this time of the run. -/
def AcceptedAt (qt : QtCbor) (storage : StorageFile) (events : List Event) (id : QUuid)
    (time : Int) : Prop :=
  ∃ before e later, events = before ++ e :: later ∧
    e.acceptedFor qt id (after qt storage before) = true ∧ e.time = time

/-- None was accepted in the last `span` milliseconds. -/
def Quiet (qt : QtCbor) (storage : StorageFile) (events : List Event) (id : QUuid)
    (span current : Int) : Prop :=
  ∀ time, AcceptedAt qt storage events id time → time + span ≤ current

/-- Every hello with a new instance of the device is accepted, wherever it comes from. -/
def Claimable (qt : QtCbor) (r : RemoteDeviceRegistry) (item : Device) (current : Int) : Prop :=
  ∀ (hello : Hello) (sender : Endpoint) (call : Call), hello.Valid →
    hello.deviceId = item.deviceId → hello.instanceId ≠ item.instanceId → call.now = current →
      (r.registerHello qt hello sender.address sender.port call).1 = ""

theorem AcceptedAt.concat {storage : StorageFile} {es : List Event} {time : Int}
    (h : AcceptedAt qt storage es id time) (e : Event) :
    AcceptedAt qt storage (es ++ [e]) id time := by
  obtain ⟨before, e', later, rfl, ha, ht⟩ := h
  exact ⟨before, e', later ++ [e], by simp, ha, ht⟩

/-- The time of the last snapshot is the time of an event that was accepted. -/
theorem acceptedAt_lastSnapshotMs (qt : QtCbor) (storage : StorageFile) (events : List Event)
    (id : QUuid) : ∀ item ∈ (after qt storage events).device id, 0 ≤ item.lastSnapshotMs →
      AcceptedAt qt storage events id item.lastSnapshotMs := by
  refine run_history (P := fun es (r : RemoteDeviceRegistry) => ∀ item ∈ r.device id,
    0 ≤ item.lastSnapshotMs → AcceptedAt qt storage es id item.lastSnapshotMs) ?_ ?_ events
  · intro item hm hs
    have hstored := (storable_create (Keyed.mem_of_find hm)).2
    rw [← hstored] at hs
    cases hs
  · intro es e ih item' hm hs
    have hr := wellFormed_after qt storage es
    rw [Option.mem_def, device_step hr] at hm
    cases hd : (after qt storage es).device id with
    | none =>
      rw [hd] at hm
      obtain ⟨_, _, -, -, rfl⟩ := lifecycle_none hm
      cases hs
    | some item =>
      rw [hd] at hm
      have hold (h : 0 ≤ item.lastSnapshotMs) := (ih item hd h).concat e
      cases change_of_lifecycle hm with
      | kept => exact hold hs
      | refreshed => simpa using hold (by simpa using hs)
      | @registered hello sender _ _ _ =>
        by_cases hsame : (item.refresh e.time).instanceId = hello.instanceId
        · rw [Device.register_same _ _ hsame] at hs ⊢
          simpa using hold (by simpa using hs)
        · rw [Device.register_other _ _ hsame] at hs
          cases hs
      | @applied snapshot sender heq hid hc =>
        refine ⟨es, e, [], rfl, ?_, rfl⟩
        have hreply := acceptSnapshot_known qt snapshot sender e.call (hid ▸ hd)
        simp [Event.acceptedFor, heq, hid, hreply, hc]

theorem state_refresh_of_quiet {storage : StorageFile} {events : List Event} {item : Device}
    {current : Int} (hd : (after qt storage events).device id = some item)
    (hquiet : Quiet qt storage events id (item.intervalSeconds * 10000) current)
    (hstate : item.state ≠ .registered) : (item.refresh current).state = .offline := by
  by_cases hs : item.lastSnapshotMs < 0
  · have haged : item.Aged := aged_invariant.of_run storage (fun _ _ => trivial) item
      (Keyed.mem_of_find hd)
    rw [Device.refresh, if_pos hs]
    cases h : item.state with
    | offline => rfl
    | registered => exact absurd h hstate
    | online => exact absurd (haged.fresh (.inl h)) (Int.not_le.mpr hs)
    | stale => exact absurd (haged.fresh (.inr h)) (Int.not_le.mpr hs)
  · have hage := hquiet _ (acceptedAt_lastSnapshotMs qt storage events id item hd (Int.not_lt.mp hs))
    rw [Device.refresh, if_neg hs]
    exact if_pos (by omega)

/-- A device that waits for the first snapshot of its instance repels every other one. -/
theorem exists_refused {r : RemoteDeviceRegistry} {item : Device} {current : Int}
    (hd : r.device item.deviceId = some item) (hstorable : item.Storable) (haged : item.Aged)
    (hlocated : item.Located) (hstate : item.state = .registered) (hcurrent : 0 ≤ current) :
    ¬ Claimable qt r item current := by
  intro h
  obtain ⟨inst, hnull, hinst⟩ : ∃ inst : QUuid, inst ≠ .null ∧ inst ≠ item.instanceId := by
    by_cases hi : sampleInstance = item.instanceId
    · exact ⟨sampleDevice, by decide, hi ▸ by decide⟩
    · exact ⟨sampleInstance, by decide, hi⟩
  obtain ⟨sender, hsender⟩ : ∃ sender : Endpoint, sender.address ≠ item.address := by
    by_cases ha : sampleSender.address = item.address
    · exact ⟨rivalSender, ha ▸ by decide⟩
    · exact ⟨sampleSender, ha⟩
  have hnow : (Call.mk current 0 0 true).now = current := if_pos hcurrent
  have hrefresh : item.refresh current = item := if_pos (haged.unsampled hstate)
  have hactive : (item.refresh current).state ≠ .offline := by simp [hrefresh, hstate]
  have hreply := h ⟨item.deviceId, inst, item.displayName, item.intervalSeconds, item.systemInfo⟩
    sender (Call.mk current 0 0 true) ⟨hstorable.deviceId, hnull, hstorable.displayName,
      hstorable.interval, hstorable.systemInfo⟩ rfl hinst hnow
  rw [registerHello_known _ _ _ _ hd, hnow, if_pos (competes_of_other hlocated hactive hsender hinst)]
    at hreply
  exact absurd hreply (by simp)

/-- After ten silent intervals a device can be claimed by anyone exactly if it is not
waiting for the first snapshot of its instance: that state never ages. -/
theorem claimable_iff (qt : QtCbor) (storage : StorageFile) (events : List Event)
    (h : ∀ e ∈ events, e.Decoded qt) {id : QUuid} {item : Device} {current : Int}
    (hd : (after qt storage events).device id = some item) (hcurrent : 0 ≤ current)
    (hquiet : Quiet qt storage events id (item.intervalSeconds * 10000) current) :
    Claimable qt (after qt storage events) item current ↔ item.state ≠ .registered := by
  have hm := Keyed.mem_of_find hd
  obtain rfl := deviceId_of_device hd
  constructor
  · intro hclaim hstate
    refine exists_refused hd ?_ ?_ ?_ hstate hcurrent hclaim
    · exact storable_invariant.of_run storage (fun e he => (h e he).valid) item hm
    · exact aged_invariant.of_run storage (fun _ _ => trivial) item hm
    · exact located_invariant.of_run storage (fun _ _ => trivial) item hm
  · intro hstate hello sender call _ hid _ hcall
    have hoffline := state_refresh_of_quiet hd hquiet hstate
    rw [registerHello_known _ _ _ _ (hid ▸ hd), hcall]
    exact if_neg fun hc => ((Device.competes_iff _ _ _).mp hc).1 hoffline

theorem quiet_of_times {storage : StorageFile} {events : List Event} {span current : Int}
    (h : ∀ e ∈ events, e.time + span ≤ current) : Quiet qt storage events id span current := by
  rintro time ⟨before, e, later, rfl, -, rfl⟩
  exact h e (by simp)

theorem claimable_iff_sample :
    ∃ item, (after .reference .missing sampleEvents).device sampleDevice = some item ∧
      Claimable .reference (after .reference .missing sampleEvents) item 20000 := by
  have hd : (after .reference .missing sampleEvents).device sampleDevice = some _ := rfl
  exact ⟨_, hd, (claimable_iff .reference .missing sampleEvents sampleEvents_decoded hd (by decide)
    (quiet_of_times (by decide +kernel))).mpr (by decide +kernel)⟩

/-- Eleven days after its hello, the last that was heard of it, a device is still
not given to another address. -/
theorem registered_identity_locked :
    let events := sampleEvents.take 1
    let r := after .reference .missing events
    ∃ item, r.device sampleDevice = some item ∧
      Quiet .reference .missing events sampleDevice (item.intervalSeconds * 10000) 1000000000 ∧
      rivalHello.Valid ∧ rivalHello.deviceId = sampleDevice ∧
      rivalHello.instanceId ≠ item.instanceId ∧
      (r.registerHello .reference rivalHello rivalSender.address rivalSender.port
        { nowMs := 1000000000 }).1 = "duplicate_device_id" :=
  ⟨_, rfl, quiet_of_times (by decide +kernel), by decide, by decide, by decide +kernel,
    by decide +kernel⟩

end Claim

end RpiDashboard.Telemetry
