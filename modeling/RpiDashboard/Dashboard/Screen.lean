import RpiDashboard.Dashboard.DeviceModel
import RpiDashboard.Telemetry.Deployment

/-! The page of devices in a deployment (`dashboard/main.cpp`): the receiver, the registry, the
model of devices that is connected to it, and a view that is connected to the model. -/

namespace RpiDashboard.Dashboard

open Qt Telemetry

/-- A deployment, and what its dashboard shows. -/
structure Screen (ι : Type) where
  deployment : Deployment ι
  watched : Watched

/-- What happens to the system; the services of the dashboard's own machine aside. -/
inductive Screen.Action (ι : Type)
  | network : Telemetry.Action ι → Screen.Action ι
  | info : Sysinfo.Event → Screen.Action ι
  | metrics : Sysmetrics.Event → Screen.Action ι

namespace Screen

variable {ι : Type} [DecidableEq ι] (qt : QtText) (cbor : QtCbor) (daemons : ι → Process)

/-- What an action asks of the registry. -/
def events (s : Deployment ι) (a : Telemetry.Action ι) : List Telemetry.Event :=
  emitted (UdpTelemetryReceiver.step cbor) (UdpTelemetryReceiver.requests cbor) s.receiver
    (s.inputs daemons a)

def deploymentAfter (s : Screen ι) : Screen.Action ι → Deployment ι
  | .network a => s.deployment.step cbor daemons a
  | _ => s.deployment

/-- The view of a dashboard that starts is a copy of its model. -/
def opened (storage : StorageFile) : Watched := (Watched.create cbor storage).copied qt

def watchedAfter (s : Screen ι) : Screen.Action ι → Watched
  | .network .restart => opened qt cbor s.deployment.receiver.registry.storage
  | .network a =>
    run (Watched.step qt cbor) s.watched ((events cbor daemons s.deployment a).map .registry)
  | .info e => s.watched.step qt cbor (.info e)
  | .metrics e => s.watched.step qt cbor (.metrics e)

def step (s : Screen ι) (a : Screen.Action ι) : Screen ι where
  deployment := s.deploymentAfter cbor daemons a
  watched := s.watchedAfter qt cbor daemons a

def start (storage : StorageFile) : Screen ι where
  deployment := .start cbor storage
  watched := opened qt cbor storage

/-- The device that is forgotten, if there is one, is the last. -/
def ForgetsLast (s : Screen ι) : Screen.Action ι → Prop
  | .network (.forgetDevice deviceId _) => ∀ index device,
    s.watched.registry.devices[index]? = some device → device.deviceId = deviceId →
      index + 1 = s.watched.registry.devices.length
  | _ => True

end Screen

end RpiDashboard.Dashboard
