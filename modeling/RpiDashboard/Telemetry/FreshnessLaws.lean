import RpiDashboard.Telemetry.SnapshotLaws

/-! When a device becomes fresher.  The state is computed from the age of the last
snapshot in units of the interval, and a hello may change the unit. -/

namespace RpiDashboard.Telemetry

open Qt Protocol RemoteDeviceRegistry

/-- The moves towards `online` of a device that has delivered snapshots. -/
def State.improves : State → State → Bool
  | .offline, .stale => true
  | .offline, .online => true
  | .stale, .online => true
  | _, _ => false

def Chronological (events : List Event) : Prop := (events.map Event.time).Pairwise (· ≤ ·)

instance (events : List Event) : Decidable (Chronological events) :=
  inferInstanceAs (Decidable (List.Pairwise _ _))

/-- The event is an accepted hello of the current instance with a longer interval. -/
def Event.RaisesInterval (qt : QtCbor) (id : QUuid) (r : RemoteDeviceRegistry) (e : Event) : Prop :=
  ∃ hello sender item, e.operation = .registerHello hello sender ∧ hello.deviceId = id ∧
    r.device id = some item ∧ hello.instanceId = item.instanceId ∧
      item.intervalSeconds < hello.intervalSeconds ∧
        (r.registerHello qt hello sender.address sender.port e.call).1 = ""

/-- Such a hello was accepted, and the freshness has not been updated since. -/
def RaisedSince (qt : QtCbor) (storage : StorageFile) (events : List Event) (id : QUuid) : Prop :=
  ∃ before hello since, events = before ++ hello :: since ∧
    hello.RaisesInterval qt id (after qt storage before) ∧ ∀ e ∈ since, e.refreshes = false

/-- No later update makes the entry fresher. -/
def Device.Settled (item : Device) (events : List Event) : Prop :=
  ∀ current, (∀ e ∈ events, e.time ≤ current) → 0 ≤ item.lastSnapshotMs →
    item.state.improves (item.freshness current) = false

variable {qt : QtCbor} {id : QUuid} {storage : StorageFile}

@[simp] theorem State.improves_self (state : State) : state.improves state = false := by
  cases state <;> rfl

@[simp] theorem State.improves_registered (state : State) : state.improves .registered = false := by
  cases state <;> rfl

@[simp] theorem State.online_improves (state : State) : State.improves .online state = false := by
  cases state <;> rfl

/-- Time and a shorter interval make a device no fresher. -/
theorem improves_freshness {item item' : Device} {t t' : Int}
    (hlast : item'.lastSnapshotMs = item.lastSnapshotMs)
    (hinterval : item'.intervalSeconds ≤ item.intervalSeconds) (ht : t ≤ t') :
    (item.freshness t).improves (item'.freshness t') = false := by
  simp only [Device.freshness, hlast]
  split_ifs <;> first | rfl | omega

@[simp] theorem freshness_refresh (item : Device) (t current : Int) :
    (item.refresh t).freshness current = item.freshness current := by
  simp [Device.freshness]

theorem Device.state_refresh {item : Device} (h : 0 ≤ item.lastSnapshotMs) (t : Int) :
    (item.refresh t).state = item.freshness t := by
  rw [Device.refresh, if_neg (Int.not_lt.mpr h)]

theorem Device.Settled.concat {item : Device} {es : List Event} (h : item.Settled es) (e : Event) :
    item.Settled (es ++ [e]) :=
  fun current ht hs => h current (fun m hm => ht m (List.mem_append_left _ hm)) hs

theorem RaisedSince.concat {es : List Event} (h : RaisedSince qt storage es id) {e : Event}
    (he : e.refreshes = false) : RaisedSince qt storage (es ++ [e]) id := by
  obtain ⟨before, hello, since, rfl, hraises, hsince⟩ := h
  refine ⟨before, hello, since ++ [e], by simp, hraises, fun m hm => ?_⟩
  rcases List.mem_append.mp hm with hm | hm
  · exact hsince m hm
  · rwa [List.mem_singleton.mp hm]

theorem settled_of_unsampled {item : Device} (h : item.lastSnapshotMs = -1) (es : List Event) :
    item.Settled es := by
  intro current _ hs
  omega

theorem settled_refresh (item : Device) (es : List Event) (e : Event) :
    (item.refresh e.time).Settled (es ++ [e]) := by
  intro current ht hs
  rw [Device.lastSnapshotMs_refresh] at hs
  rw [Device.state_refresh hs, freshness_refresh]
  exact improves_freshness rfl (Int.le_refl _) (ht e (by simp))

/-- A change leaves the entry settled unless it raises the interval. -/
theorem Change.settled {es : List Event} {e : Event} {item item' : Device}
    (h : Change id e item item') (hd : (after qt storage es).device id = some item)
    (ih : item.Settled es ∨ RaisedSince qt storage es id) :
    item'.Settled (es ++ [e]) ∨ RaisedSince qt storage (es ++ [e]) id := by
  cases h with
  | kept he => exact ih.imp (·.concat e) (·.concat he)
  | refreshed => exact .inl (settled_refresh item es e)
  | applied => exact .inl fun _ _ _ => State.online_improves _
  | @registered hello sender heq hid hc =>
    by_cases hsame : (item.refresh e.time).instanceId = hello.instanceId
    · by_cases hle : hello.intervalSeconds ≤ item.intervalSeconds
      · rw [Device.register_same _ _ hsame]
        refine .inl fun current ht hs => ?_
        rw [Device.lastSnapshotMs_refresh] at hs
        change (item.refresh e.time).state.improves _ = false
        rw [Device.state_refresh hs]
        refine improves_freshness (item.lastSnapshotMs_refresh e.time) hle (ht e (by simp))
      · refine .inr ⟨es, e, [], rfl, ⟨hello, sender, item, heq, hid, hd, ?_, ?_, ?_⟩, by simp⟩
        · simpa using hsame.symm
        · exact Int.not_le.mp hle
        · rw [registerHello_known _ _ _ _ (hid ▸ hd)]
          exact if_neg (by simpa [Event.time] using hc)
    · rw [Device.register_other _ _ hsame]
      exact .inl (settled_of_unsampled rfl _)

theorem settled_or_raisedSince (qt : QtCbor) (storage : StorageFile) (events : List Event)
    (id : QUuid) : ∀ item ∈ (after qt storage events).device id,
      item.Settled events ∨ RaisedSince qt storage events id := by
  refine run_history (P := fun es (r : RemoteDeviceRegistry) => ∀ item ∈ r.device id,
    item.Settled es ∨ RaisedSince qt storage es id) ?_ ?_ events
  · intro item hm
    have hstored := (storable_create (Keyed.mem_of_find hm)).2
    exact .inl (hstored ▸ settled_of_unsampled rfl [])
  · intro es e ih item' hm
    rw [Option.mem_def, device_step (wellFormed_after qt storage es)] at hm
    cases hd : (after qt storage es).device id with
    | none =>
      rw [hd] at hm
      obtain ⟨_, _, -, -, rfl⟩ := lifecycle_none hm
      exact .inl (settled_of_unsampled rfl _)
    | some item =>
      rw [hd] at hm
      exact (change_of_lifecycle hm).settled hd (ih item hd)

/-- A device that a freshness update improves was given a longer interval before. -/
theorem raisedSince_of_improves {events : List Event} {e : Event} {item : Device}
    (hchron : Chronological (events ++ [e])) (hd : (after qt storage events).device id = some item)
    (h : item.state.improves (item.refresh e.time).state = true) :
    RaisedSince qt storage events id := by
  have hs : 0 ≤ item.lastSnapshotMs := by
    by_contra hs
    rw [Device.refresh, if_pos (Int.not_le.mp hs), State.improves_self] at h
    cases h
  rw [Device.state_refresh hs] at h
  refine (settled_or_raisedSince qt storage events id item hd).resolve_left fun hsettled => ?_
  rw [hsettled e.time ?_ hs] at h
  · cases h
  · rw [Chronological, List.map_append] at hchron
    intro m hm
    exact (List.pairwise_append.mp hchron).2.2 m.time (List.mem_map_of_mem hm) e.time (by simp)

/-- A device becomes fresher only by an accepted snapshot, or by the first freshness
update after an accepted hello of its instance that raised the interval. -/
theorem freshness_improves (qt : QtCbor) (storage : StorageFile) (events : List Event) (e : Event)
    (hchron : Chronological (events ++ [e])) {id : QUuid} {item item' : Device}
    (hd : (after qt storage events).device id = some item)
    (hd' : (after qt storage (events ++ [e])).device id = some item')
    (h : item.state.improves item'.state = true) :
    (e.accepted qt id (after qt storage events)).isSome ∨
      e.refreshes = true ∧ RaisedSince qt storage events id := by
  rw [after, run_concat, device_step (wellFormed_after qt storage events), hd] at hd'
  cases change_of_lifecycle hd' with
  | kept => simp at h
  | refreshed he => exact .inr ⟨he, raisedSince_of_improves hchron hd h⟩
  | @registered hello sender heq hid hc =>
    refine .inr ⟨by simp [Event.refreshes, heq], ?_⟩
    by_cases hsame : (item.refresh e.time).instanceId = hello.instanceId
    · rw [Device.register_same _ _ hsame] at h
      exact raisedSince_of_improves hchron hd h
    · rw [Device.register_other _ _ hsame] at h
      simp [Device.ofHello] at h
  | @applied snapshot sender heq hid hc =>
    have hreply := acceptSnapshot_known qt snapshot sender e.call (hid ▸ hd)
    simp [Event.accepted, heq, hid, hreply, hc]

/-- A device that is offline, gets a longer interval, and is online again without a
snapshot. -/
def wakingEvents : List Event :=
  [⟨.registerHello sampleHello sampleSender, { nowMs := 0 }⟩,
    ⟨.acceptSnapshot sampleSnapshot sampleSender, { nowMs := 0 }⟩,
    ⟨.updateFreshness, { nowMs := 12000 }⟩,
    ⟨.registerHello { sampleHello with intervalSeconds := 5 } sampleSender, { nowMs := 12000 }⟩]

def wakingTick : Event := ⟨.updateFreshness, { nowMs := 12001 }⟩

theorem freshness_improves_without_snapshot :
    Chronological (wakingEvents ++ [wakingTick]) ∧
      ((after .reference .missing wakingEvents).device sampleDevice).map (·.state) =
        some .offline ∧
      ((after .reference .missing (wakingEvents ++ [wakingTick])).device sampleDevice).map
        (·.state) = some .online ∧
      wakingTick.accepted .reference sampleDevice (after .reference .missing wakingEvents) = none := by
  decide +kernel

theorem freshness_improves_sample :
    (wakingTick.accepted .reference sampleDevice (after .reference .missing wakingEvents)).isSome ∨
      wakingTick.refreshes = true ∧ RaisedSince .reference .missing wakingEvents sampleDevice := by
  have hd : (after .reference .missing wakingEvents).device sampleDevice = some _ := rfl
  have hd' : (after .reference .missing (wakingEvents ++ [wakingTick])).device sampleDevice =
    some _ := rfl
  exact freshness_improves .reference .missing wakingEvents wakingTick (by decide +kernel) hd hd'
    (by decide +kernel)

end RpiDashboard.Telemetry
