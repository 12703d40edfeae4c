import RpiDashboard.Daemon.Run
import RpiDashboard.Daemon.Shape
import RpiDashboard.Telemetry.UdpTelemetryReceiver
import Mathlib.Logic.Function.Basic

/-! Any number of daemons and the dashboard on one network.  A pass of a daemon's `run` is
a `send` and a `receive`; between the two, everything else may happen.  The network hands over
what was sent to it, late, again, in another order or never, and nothing else. -/

namespace RpiDashboard.Telemetry

open Qt Protocol

/-- A start of the daemon, up to its loop. -/
structure Process where
  config : Daemon.Config
  hostname : Option Daemon.StdString
  deviceId : Daemon.Uuid
  instanceId : Daemon.Uuid
  info : Daemon.Value
  interval : IntervalWithin config.intervalSeconds
  name : ∃ name, (config.withDisplayName hostname).displayName = toUtf8 name
  shape : Daemon.IsSystemInfo info

/-- What the collector reads. -/
abbrev Measured := {m : Daemon.Value // Daemon.IsMetrics m}

inductive Message
  | hello : Message
  | snapshot : UInt64 → Option Measured → Message

namespace Process

variable (p : Process)

/-- The configuration that the loop works with. -/
def settings : Daemon.Config := p.config.withDisplayName p.hostname

def data : Message → QByteArray
  | .hello => Daemon.hello p.settings p.deviceId p.instanceId p.info
  | .snapshot seq m =>
    Daemon.snapshot p.settings p.deviceId p.instanceId seq p.info (m.map Subtype.val)

/-- A pass of the loop; `main` does not ask for a single one. -/
def step : Daemon.Loop → Daemon.Pass → Daemon.Loop :=
  Daemon.Loop.step p.settings p.deviceId p.instanceId p.info false

def output : Daemon.Loop → Daemon.Pass → List Daemon.Output :=
  Daemon.Loop.output p.settings p.deviceId p.instanceId p.info false

end Process

/-- A message, and the socket it was sent from. -/
structure Packet (ι : Type) where
  sender : ι
  source : Endpoint
  message : Message

def Packet.datagram {ι : Type} (daemons : ι → Process) (p : Packet ι) : QNetworkDatagram :=
  ⟨(daemons p.sender).data p.message, p.source⟩

/-- The whole system: the daemons' loops, the sockets they wait on, all that they have sent, and
the dashboard. -/
structure Deployment (ι : Type) where
  loops : ι → Daemon.Loop := fun _ => {}
  sockets : ι → Option Endpoint := fun _ => none
  wire : List (Packet ι) := []
  receiver : UdpTelemetryReceiver

inductive Action (ι : Type)
  | unresolved : ι → Action ι
  | noSocket : ι → Action ι
  | send : ι → Endpoint → Action ι
  | receive : ι → Option Nat → Option Measured → Action ι
  | deliver : Nat → Action ι
  | unreadable : Action ι
  | readyRead : (Nat → Call) → Action ι
  | timeout : Call → Action ι
  | forgetDevice : QUuid → Call → Action ι
  | restart : Action ι

namespace Deployment

variable {ι : Type} [DecidableEq ι] (qt : QtCbor) (daemons : ι → Process)

def start (storage : StorageFile) : Deployment ι where
  receiver := { registry := .create qt storage }

/-- An answer of the dashboard, for the socket it was meant for. -/
def reply (s : Deployment ι) (source : Endpoint) (n : Nat) : Option QByteArray :=
  (s.receiver.sent[n]?).bind fun sent => if sent.2 = source then some sent.1 else none

/-- The pass that ends with a `receive`: without an answer, the wait times out. -/
def exchange (s : Deployment ι) (source : Endpoint) (answer : Option Nat) (m : Option Measured) :
    Daemon.Pass :=
  .exchange (answer.bind (s.reply source)) (m.map Subtype.val)

/-- The pass of daemon `k` that an action completes. -/
def passes (k : ι) (s : Deployment ι) : Action ι → List Daemon.Pass
  | .unresolved j => if j = k ∧ s.sockets k = none then [.unresolved] else []
  | .noSocket j => if j = k ∧ s.sockets k = none then [.noSocket] else []
  | .receive j answer m =>
    if j = k then (s.sockets k).toList.map fun source => s.exchange source answer m else []
  | _ => []

/-- What an action puts on the wire. -/
def sent (s : Deployment ι) : Action ι → List (Packet ι)
  | .send k source => if s.sockets k = none then [⟨k, source, .hello⟩] else []
  | .receive k answer m =>
    match s.sockets k with
    | some source =>
      if Daemon.readsAccepted (Daemon.recv (answer.bind (s.reply source))) then
        [⟨k, source, .snapshot (s.loops k).seq m⟩]
      else []
    | none => []
  | _ => []

def socketsAfter (s : Deployment ι) : Action ι → ι → Option Endpoint
  | .send k source =>
    if s.sockets k = none then Function.update s.sockets k (some source) else s.sockets
  | .receive k _ _ => Function.update s.sockets k none
  | _ => s.sockets

/-- What an action is to the dashboard. -/
def inputs (s : Deployment ι) : Action ι → List UdpTelemetryReceiver.Input
  | .deliver n => (s.wire[n]?).toList.map fun p => .arrival (some (p.datagram daemons))
  | .unreadable => [.arrival none]
  | .readyRead calls => [.readyRead calls]
  | .timeout call => [.timeout call]
  | .forgetDevice deviceId call => [.forgetDevice deviceId call]
  | _ => []

/-- A start of the dashboard on the file that the last one left; its answers are still on
their way. -/
def restarted (u : UdpTelemetryReceiver) : UdpTelemetryReceiver where
  registry := .create qt u.registry.storage
  sent := u.sent

def receiverAfter (s : Deployment ι) : Action ι → UdpTelemetryReceiver
  | .restart => restarted qt s.receiver
  | a => run (UdpTelemetryReceiver.step qt) s.receiver (s.inputs daemons a)

def step (s : Deployment ι) (a : Action ι) : Deployment ι where
  loops := fun k => run (daemons k).step (s.loops k) (s.passes k a)
  sockets := s.socketsAfter a
  wire := s.wire ++ s.sent a
  receiver := s.receiverAfter qt daemons a

end Deployment

end RpiDashboard.Telemetry
