import RpiDashboard.Telemetry.Registry
import RpiDashboard.Telemetry.StorageLaws

/-! Invariants of the registry over whole runs, and the restart. -/

namespace RpiDashboard.Telemetry

open Qt Protocol RemoteDeviceRegistry

variable {qt : QtCbor}

theorem Event.Decoded.valid {e : Event} (h : e.Decoded qt) : e.Valid := by
  obtain ⟨operation, call⟩ := e
  cases operation with
  | registerHello hello sender =>
    obtain ⟨bytes, hb⟩ := h
    exact decodeMessage_valid hb
  | acceptSnapshot snapshot sender =>
    obtain ⟨bytes, hb⟩ := h
    exact decodeMessage_valid hb
  | updateFreshness => trivial
  | forgetDevice deviceId => trivial

section Invariants

variable {ok : Event → Prop} {P : Device → Prop}

theorem Device.Invariant.next (h : Device.Invariant ok P) {e : Event} (he : ok e) {id : QUuid}
    {room : Bool} {entry : Option Device} (hP : ∀ item ∈ entry, P item) :
    ∀ item ∈ lifecycle id room e entry, P item := by
  intro item' hm
  obtain ⟨operation, call⟩ := e
  cases entry with
  | none =>
    obtain ⟨hello, sender, heq, -, rfl⟩ := lifecycle_none hm
    exact h.added hello sender call (heq ▸ he)
  | some item =>
    replace hP := hP item rfl
    cases change_of_lifecycle hm with
    | kept => exact hP
    | refreshed => exact h.refreshed item _ hP
    | registered heq _ _ => exact h.registered _ _ _ call (heq ▸ he) (h.refreshed item _ hP)
    | applied heq _ hc => exact h.applied item _ _ call (heq ▸ he) hc hP

/-- An invariant of the entries holds of all of them in every state of a run. -/
theorem Device.Invariant.of_run (h : Device.Invariant ok P) (storage : StorageFile) {es : List Event}
    (he : ∀ e ∈ es, ok e) : ∀ item ∈ (after qt storage es).devices, P item := by
  have hrun : ∀ id, ∀ item ∈ (after qt storage es).device id, P item := by
    refine (run_invariant
      (P := fun r : RemoteDeviceRegistry => r.WellFormed ∧ ∀ id, ∀ item ∈ r.device id, P item)
      ⟨wellFormed_create storage, fun id item hm => ?_⟩ ?_).2
    · obtain ⟨hs, hstored⟩ := storable_create (Keyed.mem_of_find hm)
      exact hstored ▸ h.loaded item hs
    · intro r e hm ⟨hr, hP⟩
      refine ⟨hr.step e, fun id => ?_⟩
      rw [device_step hr]
      exact h.next (he e hm) (hP id)
  intro item hm
  exact hrun item.deviceId item (device_of_mem (wellFormed_after qt storage es) hm)

end Invariants

theorem storable_invariant : Device.Invariant Event.Valid Device.Storable where
  loaded _ h := ⟨h.deviceId, h.displayName, h.interval, h.systemInfo⟩
  added _ _ _ h := ⟨h.deviceId, h.displayName, h.interval, h.systemInfo⟩
  refreshed item current h := by
    unfold Device.refresh
    split
    · exact h
    · exact ⟨h.deviceId, h.displayName, h.interval, h.systemInfo⟩
  registered item hello sender call hello_valid h := by
    unfold Device.register
    split <;>
      exact ⟨h.deviceId, hello_valid.displayName, hello_valid.interval, hello_valid.systemInfo⟩
  applied item snapshot sender call hv _ h :=
    ⟨h.deviceId, h.displayName, h.interval, DeviceSnapshot.Valid.systemInfo hv⟩

theorem freshness_ne_registered (item : Device) (current : Int) :
    item.freshness current ≠ .registered := by
  unfold Device.freshness
  dsimp only
  split
  · simp
  · split <;> simp

theorem aged_invariant : Device.Invariant (fun _ => True) Device.Aged where
  loaded item _ := by constructor <;> simp [Device.stored]
  added hello sender call _ := by constructor <;> simp [Device.ofHello]
  refreshed item current h := by
    by_cases hs : item.lastSnapshotMs < 0
    · rwa [Device.refresh, if_pos hs]
    · rw [Device.refresh, if_neg hs]
      exact ⟨fun _ => Int.not_lt.mp hs, fun hr => absurd hr (freshness_ne_registered item current)⟩
  registered item hello sender call _ h := by
    by_cases hsame : item.instanceId = hello.instanceId
    · rw [Device.register_same _ _ hsame]
      exact ⟨h.fresh, h.unsampled⟩
    · rw [Device.register_other _ _ hsame]
      constructor <;> simp [Device.ofHello]
  applied item snapshot sender call _ _ _ := ⟨fun _ => call.now_nonneg, by simp [Device.apply]⟩

theorem consistent_invariant : Device.Invariant Event.Valid Device.Consistent where
  loaded item h := by
    refine ⟨aged_invariant.loaded item h, h.deviceId, ?_, ?_, ?_, ?_⟩ <;> simp [Device.stored]
  added hello sender call h := by
    have hi : hello.instanceId ≠ .null := Hello.Valid.instanceId h
    refine ⟨aged_invariant.added hello sender call trivial, Hello.Valid.deviceId h, ?_, ?_, ?_, ?_⟩ <;>
      simp [Device.ofHello, hi]
  refreshed item current h := by
    have haged := aged_invariant.refreshed item current h.toAged
    by_cases hs : item.lastSnapshotMs < 0
    · rwa [Device.refresh, if_pos hs]
    · rw [Device.refresh, if_neg hs] at haged ⊢
      exact ⟨haged, h.deviceId, h.sampled, h.metrics,
        fun hr => absurd hr (freshness_ne_registered item current), fun _ hn => absurd hn hs⟩
  registered item hello sender call hv h := by
    have hi : hello.instanceId ≠ .null := Hello.Valid.instanceId hv
    have haged := aged_invariant.registered item hello sender call trivial h.toAged
    by_cases hsame : item.instanceId = hello.instanceId
    · rw [Device.register_same _ _ hsame] at haged ⊢
      refine ⟨haged, h.deviceId, h.sampled, h.metrics, h.registered, fun ho hn => ?_⟩
      exact absurd (hsame ▸ (h.unregistered ho hn).1) hi
    · rw [Device.register_other _ _ hsame] at haged ⊢
      refine ⟨haged, h.deviceId, ?_, ?_, ?_, ?_⟩ <;> simp [Device.ofHello, hi]
  applied item snapshot sender call _ hc h := by
    refine ⟨aged_invariant.applied item snapshot sender call trivial hc h.toAged, h.deviceId,
      ?_, ?_, ?_, ?_⟩ <;> simp [Device.apply, call.now_nonneg]

theorem located_invariant : Device.Invariant (fun _ => True) Device.Located where
  loaded item _ := by simp [Device.Located, Device.stored]
  added hello sender call _ := fun _ => sender.address_ne_null
  refreshed item current h := by
    by_cases hs : item.lastSnapshotMs < 0
    · rwa [Device.refresh, if_pos hs]
    · rw [Device.refresh, if_neg hs]
      exact fun _ => h (.inr (Int.not_lt.mp hs))
  registered item hello sender call _ h := by
    have haddress : (item.register hello sender.address sender.port).address = sender.address := by
      unfold Device.register
      split <;> rfl
    intro _
    rw [haddress]
    exact sender.address_ne_null
  applied item snapshot sender call _ hc h := by
    have haddress : item.address = sender.address := by
      simp only [Device.rejects, Bool.or_eq_false_iff, decide_eq_false_iff_not, ne_eq, not_not] at hc
      exact hc.1.1.1.2
    exact fun _ => haddress ▸ sender.address_ne_null

theorem ids_run {r : RemoteDeviceRegistry} (hr : r.WellFormed) (es : List Event) :
    ∃ new, (run (step qt) r es).ids = r.survivors es ++ new := by
  induction es generalizing r with
  | nil => exact ⟨[], by simp [survivors]⟩
  | cons e es ih =>
    obtain ⟨new, hnew⟩ := ih (hr.step e)
    refine ⟨(e.adds r).filter (fun id => es.all fun e => e.keeps id) ++ new, ?_⟩
    rw [run_cons, hnew, survivors, ids_step qt hr, List.filter_append, List.filter_filter,
      List.append_assoc]
    simp [survivors, Bool.and_comm]

/-- The registry's invariant: from any file, after any decoded messages. -/
theorem registry_representation (qt : QtCbor) (storage : StorageFile) (events later : List Event)
    (h : ∀ e ∈ events, e.Decoded qt) :
    let r := after qt storage events
    r.devices.length ≤ 64 ∧ r.ids.Nodup ∧ (∀ item ∈ r.devices, item.Consistent) ∧
      (∃ new, (after qt storage (events ++ later)).ids = r.survivors later ++ new) ∧
      ((create qt storage).devices = [] ∨ ∃ bytes, storage = .content bytes ∧
        StorageFile.Lists qt bytes (create qt storage).devices) := by
  have hr := wellFormed_after qt storage events
  refine ⟨hr.length_le, hr.nodup, ?_, ?_, ?_⟩
  · exact consistent_invariant.of_run storage fun e he => (h e he).valid
  · rw [after, run_append]
    exact ids_run hr later
  · exact (devices_create qt storage).imp_right fun ⟨bytes, hb, hl, _⟩ => ⟨bytes, hb, hl⟩

def sampleSender : Endpoint := ⟨.ipv4 0x0a000002, 40000, by decide⟩

def sampleEvents : List Event :=
  [⟨.registerHello sampleHello sampleSender, { nowMs := 0 }⟩,
    ⟨.acceptSnapshot sampleSnapshot sampleSender, { nowMs := 1000 }⟩,
    ⟨.updateFreshness, { nowMs := 4000 }⟩]

theorem sampleEvents_decoded : ∀ e ∈ sampleEvents, e.Decoded .reference := by
  simp only [sampleEvents, List.forall_mem_cons]
  refine ⟨⟨_, congrArg DecodeResult.message (decodeMessage_encodeMessage
    QtCbor.reference_rfc8949 (by decide) (by decide +kernel))⟩, ⟨_, congrArg DecodeResult.message
    (decodeMessage_encodeMessage QtCbor.reference_rfc8949 (by decide) (by decide +kernel))⟩,
    trivial, by simp⟩

theorem registry_representation_sample :
    ((after .reference .missing sampleEvents).devices.map (·.state)) = [.stale] ∧
      ∀ item ∈ (after .reference .missing sampleEvents).devices, item.Consistent :=
  ⟨by decide +kernel, (registry_representation .reference .missing sampleEvents []
    sampleEvents_decoded).2.2.1⟩

theorem toValue_stored (items : List Device) :
    toValue qt (items.map Device.stored) = toValue qt items := by
  simp [toValue, Function.comp_def, Device.toMap, Device.stored]

/-- A restart brings back what was persisted, and persisting it again changes nothing. -/
theorem persistence_round_trip (h : qt.Rfc8949) (storage : StorageFile) (events : List Event)
    (hd : ∀ e ∈ events, e.Decoded qt) (call again : Call) (hsaved : call.saved = true)
    (hagain : again.saved = true) :
    let r := after qt storage events
    let file := (r.persist qt call).storage
    create qt file = { storage := file, devices := r.devices.map Device.stored } ∧
      ((create qt file).persist qt again).storage = file := by
  intro r file
  have hr : r.WellFormed := wellFormed_after qt storage events
  have hstorable : ∀ item ∈ r.devices, item.Storable :=
    storable_invariant.of_run storage fun e he => (hd e he).valid
  have hfile : file = .content (qt.toCbor (toValue qt r.devices)) := by simp [file, persist, hsaved]
  have hread := readDevices_of_lists (lists_toValue h hstorable hr.nodup hr.length_le)
  have hcreate : create qt file = { storage := file, devices := r.devices.map Device.stored } := by
    simp [create, load, hfile, hread]
  refine ⟨hcreate, ?_⟩
  rw [hcreate, hfile]
  simp [persist, hagain, toValue_stored]

theorem persistence_round_trip_sample :
    let r := after .reference .missing sampleEvents
    let file := (r.persist .reference {}).storage
    create .reference file = { storage := file, devices := r.devices.map Device.stored } ∧
      ((create .reference file).persist .reference {}).storage = file :=
  persistence_round_trip QtCbor.reference_rfc8949 .missing sampleEvents sampleEvents_decoded {} {}
    rfl rfl

end RpiDashboard.Telemetry
