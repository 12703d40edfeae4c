import RpiDashboard.Dashboard.DeviceModelLaws
import RpiDashboard.Dashboard.Screen
import RpiDashboard.Telemetry.ProvenanceLaws

/-! What a daemon measures is what the page of devices shows, from one end to the other. -/

namespace RpiDashboard.Dashboard.Screen

open Qt Telemetry RemoteDeviceRegistry

variable {ι : Type} [DecidableEq ι] {qt : QtText} {cbor : QtCbor} {daemons : ι → Process}
  {s : Screen ι}

/-- An operation of the registry that forgets nothing. -/
def Keeps (e : Telemetry.Event) : Prop := ∀ deviceId, e.operation ≠ .forgetDevice deviceId

theorem keeps_request (received : Option QNetworkDatagram) (call : Call) :
    ∀ e ∈ UdpTelemetryReceiver.request cbor received call, Keeps e := by
  cases received with
  | none => simp [UdpTelemetryReceiver.request]
  | some datagram =>
    simp only [UdpTelemetryReceiver.request]
    split
    · simp
    · split <;> simp [Keeps]

theorem keeps_loopRequests (calls : Nat → Call) (n : Nat) (socket : QUdpSocket) :
    ∀ e ∈ UdpTelemetryReceiver.loopRequests cbor calls n socket, Keeps e := by
  induction n generalizing socket with
  | zero => simp [UdpTelemetryReceiver.loopRequests]
  | succ n ih =>
    cases socket with
    | nil => simp [UdpTelemetryReceiver.loopRequests]
    | cons received socket => exact List.forall_mem_append.mpr ⟨keeps_request _ _, ih socket⟩

omit [DecidableEq ι] in
theorem keeps_events {d : Deployment ι} {a : Telemetry.Action ι}
    (h : ∀ deviceId call, a ≠ .forgetDevice deviceId call) :
    ∀ e ∈ events cbor daemons d a, Keeps e := by
  cases a with
  | deliver n => cases hwire : d.wire[n]? <;>
      simp [events, Deployment.inputs, hwire, emitted, UdpTelemetryReceiver.requests]
  | readyRead calls =>
    rw [events, Deployment.inputs, emitted, emitted, List.append_nil]
    exact keeps_loopRequests calls _ d.receiver.socket
  | forgetDevice deviceId call => exact absurd rfl (h deviceId call)
  | _ => simp [events, Deployment.inputs, emitted, UdpTelemetryReceiver.requests, Keeps]

theorem forgetsLast_of_keeps {w : Watched} {e : Telemetry.Event} (h : Keeps e) :
    w.ForgetsLast (.registry e) := by
  obtain ⟨operation, call⟩ := e
  cases operation with
  | forgetDevice deviceId => exact absurd rfl (h deviceId)
  | _ => trivial

theorem settled_step {w : Watched} (h : w.Settled qt) (op : Operation) (hlast : w.ForgetsLast op) :
    (w.step qt cbor op).Settled qt where
  shows := (h.shows_step_iff op).mpr hlast
  idle := h.step_idle op
  registry := Watched.wellFormed_step h.registry op

theorem registry_run (w : Watched) (es : List Telemetry.Event) :
    (run (Watched.step qt cbor) w (es.map .registry)).registry =
      run (RemoteDeviceRegistry.step cbor) w.registry es := by
  induction es generalizing w with
  | nil => rfl
  | cons e es ih => exact ih (w.step qt cbor (.registry e))

theorem settled_opened (storage : StorageFile) : (opened qt cbor storage).Settled qt :=
  Watched.settled_copied storage []

/-- The view is a copy of the model of the registry that the receiver fills. -/
structure Connected (qt : QtText) (s : Screen ι) : Prop where
  registry : s.watched.registry = s.deployment.receiver.registry
  settled : s.watched.Settled qt

theorem settled_run {w : Watched} (h : w.Settled qt) {es : List Telemetry.Event}
    (hes : ∀ e ∈ es, Keeps e) : (run (Watched.step qt cbor) w (es.map .registry)).Settled qt := by
  refine run_invariant h fun w op hop hw => settled_step hw op ?_
  obtain ⟨e, he, rfl⟩ := List.mem_map.mp hop
  exact forgetsLast_of_keeps (hes e he)

omit [DecidableEq ι] in
theorem registry_network (h : s.watched.registry = s.deployment.receiver.registry)
    (a : Telemetry.Action ι) :
    (s.watchedAfter qt cbor daemons (.network a)).registry =
      (s.deployment.receiverAfter cbor daemons a).registry := by
  have hrun : (run (Watched.step qt cbor) s.watched
      ((events cbor daemons s.deployment a).map .registry)).registry =
        (run (UdpTelemetryReceiver.step cbor) s.deployment.receiver
          (s.deployment.inputs daemons a)).registry := by
    rw [registry_run, UdpTelemetryReceiver.registry_run, h]
    rfl
  cases a with
  | restart => rfl
  | _ => exact hrun

theorem Connected.step (h : s.Connected qt) {a : Screen.Action ι} (hlast : s.ForgetsLast a) :
    (s.step qt cbor daemons a).Connected qt := by
  cases a with
  | network a =>
    refine ⟨registry_network h.registry a, ?_⟩
    cases a with
    | restart => exact settled_opened _
    | forgetDevice deviceId call =>
      exact settled_step h.settled (.registry ⟨.forgetDevice deviceId, _⟩) hlast
    | _ => exact settled_run h.settled (keeps_events (by simp))
  | info e =>
    have hs : (s.watched.step qt cbor (.info e)).Settled qt := settled_step h.settled _ trivial
    exact ⟨h.registry, hs⟩
  | metrics e =>
    have hs : (s.watched.step qt cbor (.metrics e)).Settled qt := settled_step h.settled _ trivial
    exact ⟨h.registry, hs⟩

theorem connected_run (storage : StorageFile) {as : List (Screen.Action ι)}
    (h : Throughout (step qt cbor daemons) ForgetsLast (start qt cbor storage) as) :
    (run (step qt cbor daemons) (start qt cbor storage) as).Connected qt :=
  h.invariant ⟨rfl, settled_opened storage⟩ fun _ _ hlast hs => hs.step hlast

/-- A run of the screen is one of its deployment, the local services aside. -/
def networkActions : List (Screen.Action ι) → List (Telemetry.Action ι)
  | [] => []
  | .network a :: as => a :: networkActions as
  | _ :: as => networkActions as

theorem deployment_run (s : Screen ι) (as : List (Screen.Action ι)) :
    (run (step qt cbor daemons) s as).deployment =
      run (Deployment.step cbor daemons) s.deployment (networkActions as) := by
  induction as generalizing s with
  | nil => rfl
  | cons a as ih => cases a <;> exact ih _

omit [DecidableEq ι] in
theorem length_networkActions (as : List (Screen.Action ι)) :
    (networkActions as).length ≤ as.length := by
  induction as with
  | nil => exact le_rfl
  | cons a as ih => cases a <;> simp only [networkActions, List.length_cons] <;> omega

/-- The view has one row for each device of the registry, and that is the row of an entry which is
not claimed since the last restart or says in every field what one daemon has sent. -/
structure ShowsSent (qt : QtText) (daemons : ι → Process) (s : Screen ι) : Prop where
  length : s.watched.view.length = 1 + s.deployment.receiver.registry.devices.length
  sent : ∀ row data, s.watched.view[row + 1]? = some data → ∃ item,
    s.deployment.receiver.registry.devices[row]? = some item ∧
      data = Sources.remoteRow qt (row + 1) item ∧
      (item.Unclaimed ∨ ∃ k, item.SentBy daemons s.deployment.wire k)

omit [DecidableEq ι] in
theorem Connected.showsSent (h : s.Connected qt)
    (ht : s.deployment.receiver.Traced daemons s.deployment.wire) : s.ShowsSent qt daemons := by
  have hrows : s.watched.view = s.watched.rows qt := h.settled.shows
  have hdevices : s.watched.sources.devices = s.deployment.receiver.registry.devices :=
    congrArg RemoteDeviceRegistry.devices h.registry
  rw [Watched.rows, Sources.rows_eq, hdevices] at hrows
  constructor
  · rw [hrows, List.length_cons, List.length_mapIdx, Nat.add_comm]
  · intro row data hdata
    rw [hrows, List.getElem?_cons_succ, List.getElem?_mapIdx] at hdata
    obtain ⟨item, hitem, rfl⟩ := Option.map_eq_some_iff.mp hdata
    have hdevice := device_of_mem ht.registry.wellFormed (List.mem_of_getElem? hitem)
    exact ⟨item, hitem, rfl, ht.registry.device item.deviceId item hdevice⟩

/-- What a daemon measures is what the page shows, in every run of the system in which no device
above others is forgotten. -/
theorem shows_what_was_sent (qt : QtText) (hcbor : cbor.Rfc8949) (daemons : ι → Process)
    (hinst : ∀ j k, (daemons j).instanceId = (daemons k).instanceId → j = k)
    (storage : StorageFile) (as : List (Screen.Action ι)) (hlen : as.length < 2 ^ 63)
    (hlast : Throughout (step qt cbor daemons) ForgetsLast (start qt cbor storage) as) :
    (run (step qt cbor daemons) (start qt cbor storage) as).ShowsSent qt daemons := by
  refine (connected_run storage hlast).showsSent ?_
  rw [deployment_run]
  exact traced_run hcbor hinst storage ((length_networkActions as).trans_lt hlen)

def sampleScreen : Screen Unit :=
  run (step Watched.sampleQt .reference fun _ => sampleProcess)
    (start Watched.sampleQt .reference .missing) (samplePass.map .network)

theorem shows_what_was_sent_sample :
    sampleScreen.deployment.receiver.registry.devices.map (·.lastSequence) = [some 0] ∧
      sampleScreen.ShowsSent Watched.sampleQt fun _ => sampleProcess :=
  ⟨by decide +kernel, shows_what_was_sent Watched.sampleQt QtCbor.reference_rfc8949
    (fun _ => sampleProcess) (fun _ _ _ => rfl) .missing (samplePass.map .network) (by decide)
    ⟨trivial, trivial, trivial, trivial, trivial, trivial, trivial, trivial⟩⟩

end RpiDashboard.Dashboard.Screen
